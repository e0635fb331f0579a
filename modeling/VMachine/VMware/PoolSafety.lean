import VMachine.VMware.Pool

/-! What becomes of a session once it is open. Nothing checks a connection out of the pool,
so it can be disconnected under a block that is open on it; and a connection made when the
pool is full belongs to nobody once its block is left. -/
namespace VMachine.VMware

/- No block is open on a session that the step disconnects or is about to. -/
def Considerate (cfg : PoolConfig) (s : PoolState) (e : PoolEvent) : Prop :=
  ∀ id < s.sessions.length, withdraws cfg s e id = true → s.users id = 0

/- No session was passed to Disconnect while a block was open on it. -/
def NeverUnderUser (s : PoolState) : Prop := ∀ closing ∈ s.closed, closing.users = 0

structure Unharmed (s : PoolState) : Prop where
  past : NeverUnderUser s
  next : ∀ c ∈ s.callers, ∀ id, c.phase = .disconnecting id → s.users id = 0

section Users
variable {cfg : PoolConfig} {s t : PoolState} {i : Nat} {c : Caller}

/-- What is disconnected has no user, and what is to be disconnected gets none. -/
theorem Unharmed.onward (unharmed : Unharmed s)
    (closed : ∀ closing ∈ t.closed, closing ∈ s.closed ∨ closing.users = 0)
    (callers : ∀ c ∈ t.callers, ∀ id, c.phase = .disconnecting id → c ∈ s.callers ∨ s.users id = 0)
    (fewer : ∀ c ∈ t.callers, ∀ id, c.phase = .disconnecting id → t.users id ≤ s.users id) : Unharmed t where
  past closing listed := by
    obtain old | unused := closed closing listed
    · exact unharmed.past closing old
    · exact unused
  next c listed id phase := by
    have most := fewer c listed id phase
    obtain old | unused := callers c listed id phase
    · have before := unharmed.next c old id phase
      omega
    · omega

theorem Unharmed.noted (unharmed : Unharmed s) (lastHealthCheck : Int) (connReconnected connFailed : Nat) :
    Unharmed { s with
      lastHealthCheck := lastHealthCheck, connReconnected := connReconnected, connFailed := connFailed } :=
  ⟨unharmed.past, unharmed.next⟩

theorem users_move_le (here : s.callers[i]? = some c) {after : Caller} {id : Nat}
    (outside : after.phase ≠ .holding id) : (s.move i after).users id ≤ s.users id :=
  Parties.countP_set_le _ _ here (by simp [PoolState.isUsing, outside])

/-- A caller goes on without entering a block and without being about to disconnect. -/
theorem Unharmed.moved (unharmed : Unharmed s) (here : s.callers[i]? = some c) (next : Phase)
    (outside : ∀ id, next ≠ .holding id) (staying : ∀ id, next ≠ .disconnecting id) :
    Unharmed (s.move i { c with phase := next }) := by
  apply unharmed.onward
  · exact fun closing listed => .inl listed
  · intro other listed id phase
    obtain old | rfl := List.mem_or_eq_of_mem_set listed
    · exact .inl old
    · exact absurd phase (staying id)
  · intro other _ id _
    exact users_move_le here (outside id)

theorem Unharmed.swept (unharmed : Unharmed s) {out : Nat → Bool}
    (unused : ∀ id ∈ s.pool, out id = true → s.users id = 0) : Unharmed (s.sweep out) := by
  apply unharmed.onward
  · intro closing listed
    obtain old | new := List.mem_append.mp listed
    · exact .inl old
    · obtain ⟨id, swept, rfl⟩ := List.mem_map.mp new
      obtain ⟨pooled, out⟩ := List.mem_filter.mp swept
      exact .inr (unused id pooled out)
  · exact fun other listed _ _ => .inl listed
  · exact fun _ _ _ _ => Nat.le_refl _

/-- A session that is about to be disconnected is not the one that is received. -/
theorem Unharmed.received (unharmed : Unharmed s) (here : s.callers[i]? = some c) (id : Nat) (after : Caller)
    (phase : after.phase = (PoolState.received c id).phase) (callers : t.callers = s.callers.set i after)
    (closed : t.closed = s.closed) (apart : ∀ other ∈ s.callers, other.phase ≠ .disconnecting id) :
    Unharmed t := by
  obtain ⟨owning, _, staying, _⟩ := received_phase c id
  have others : ∀ other ∈ t.callers, ∀ number, other.phase = .disconnecting number → other ∈ s.callers := by
    intro other listed number leaving
    rw [callers] at listed
    obtain old | rfl := List.mem_or_eq_of_mem_set listed
    · exact old
    · exact absurd (phase.symm.trans leaving) (staying number)
  apply unharmed.onward
  · intro closing listed
    rw [closed] at listed
    exact .inl listed
  · exact fun other listed number leaving => .inl (others other listed number leaving)
  · intro other listed number leaving
    have old := others other listed number leaving
    rw [PoolState.users, callers]
    apply Parties.countP_set_le _ _ here
    have elsewhere : after.phase ≠ .holding number := by
      intro inside
      rw [phase] at inside
      have same := owning number (by simp [inside, Phase.session])
      exact apart other old (same ▸ leaving)
    simp [PoolState.isUsing, elsewhere]

theorem Unharmed.acted {action : Action} (unharmed : Unharmed s) (inv : PoolInv cfg s)
    (here : s.callers[i]? = some c) (considerate : Considerate cfg s (.act i action))
    (effect : Effect cfg s i c action t) : Unharmed t := by
  have listed := List.mem_of_getElem? here
  have unused : ∀ out : Nat → Bool,
      (∀ id ∈ s.pool, out id = true → withdraws cfg s (.act i action) id = true) → Unharmed (s.sweep out) := by
    intro out swept
    apply unharmed.swept
    intro id pooled gone
    exact considerate id (inv.known id pooled) (swept id pooled gone)
  cases effect with
  | waits out next last reconnected failed swept _ _ onward _ =>
    apply ((unused out swept).noted last reconnected failed).moved here next
    · rintro id rfl
      contradiction
    · rintro id rfl
      contradiction
  | reuses out id now usedAt swept _ pooled _ =>
    refine (unused out swept).received here id { PoolState.received c id with age := some _ } rfl rfl rfl ?_
    intro other there leaving
    exact (inv.swept out).ejected other there id leaving pooled
  | opens t0 _ =>
    have moved := unharmed.moved here (.connected s.sessions.length) (by simp) (by simp)
    exact ⟨moved.past, moved.next⟩
  | keeps id connected =>
    have unshared := inv.fresh i c id here (by simp [connected, Phase.fresh])
    refine unharmed.received here id { PoolState.received c id with
      surplus := !decide (s.pool.length < cfg.maxPoolSize) } rfl rfl rfl ?_
    intro other there leaving
    obtain ⟨j, found⟩ := List.mem_iff_getElem?.mp there
    exact inv.untaken unshared found (inv.owning other there id (by simp [leaving, Phase.session]))
  | leaves how id _ _ =>
    apply unharmed.moved here _
    · intro other
      split <;> simp
    · intro other
      split <;> simp
  | removes id remove ejecting =>
    have known := inv.takenKnown c listed id (inv.owning c listed id (by simp [ejecting, Phase.session]))
    have alone := considerate id known (by simp [withdraws, remove, here, ejecting])
    apply unharmed.onward
    · exact fun closing there => .inl there
    · intro other there number leaving
      obtain old | rfl := List.mem_or_eq_of_mem_set there
      · exact .inl old
      · cases leaving
        exact .inr alone
    · intro other _ number _
      exact users_move_le here (by simp)
  | disconnects id disconnecting =>
    have alone := unharmed.next c listed id disconnecting
    apply unharmed.onward
    · intro closing there
      obtain old | new := List.mem_append.mp there
      · exact .inl old
      · cases List.mem_singleton.mp new
        exact .inr alone
    · intro other there number leaving
      obtain old | rfl := List.mem_or_eq_of_mem_set there
      · exact .inl old
      · contradiction
    · intro other _ number _
      exact users_move_le here (by simp)

theorem Unharmed.stepped (e : PoolEvent) (unharmed : Unharmed s) (inv : PoolInv cfg s)
    (considerate : Considerate cfg s e) (run : poolStep cfg s e = some t) : Unharmed t := by
  cases e with
  | call block =>
    cases run
    apply unharmed.onward
    · exact fun closing listed => .inl listed
    · intro other listed id leaving
      obtain old | new := List.mem_append.mp listed
      · exact .inl old
      · cases List.mem_singleton.mp new
        contradiction
    · intro _ _ id _
      simp [PoolState.users, List.countP_append, PoolState.isUsing]
  | act i action =>
    obtain ⟨c, here, acts⟩ := Option.bind_eq_some_iff.mp run
    exact unharmed.acted inv here considerate (act_effect acts)
  | disconnectAll =>
    cases run
    apply unharmed.swept
    intro id pooled _
    exact considerate id (inv.known id pooled) (by simpa [withdraws] using pooled)

end Users

/-- Two callers share a session, and the block of the first raises while the other is in its own. -/
theorem session_closed_under_user :
    ¬ ∀ cfg es s, Runs.exec (poolStep cfg) .initial es = some s → NeverUnderUser s := by
  intro claim
  have shared : ∃ s, Runs.exec (poolStep {}) .initial
      (creates 0 10 ++ [.call true, .act 1 (.readClock 20), .act 1 (.findHealthy 20 21),
        .act 0 (.leave .raised), .act 0 .remove, .act 0 .disconnect]) = some s ∧
      s.closed = [⟨0, 1⟩] := ⟨_, rfl, rfl⟩
  obtain ⟨s, run, closed⟩ := shared
  have unused := claim _ _ s run ⟨0, 1⟩ (by simp [closed])
  contradiction

/- A session that is open is pooled or closed. -/
def Conserved (s : PoolState) : Prop := ∀ id < s.sessions.length, id ∈ s.pool ∨ id ∈ s.closedIds

/- A block whose connection was created when the pool was full is left by an Exception. -/
def surplusRaises (s : PoolState) : PoolEvent → Bool
  | .act i (.leave how) => decide (how = .raised) || (s.callers[i]?).all (fun c => !c.surplus)
  | _ => true

def SurplusRaises (s : PoolState) (e : PoolEvent) : Prop := surplusRaises s e = true

instance (s : PoolState) (e : PoolEvent) : Decidable (SurplusRaises s e) :=
  inferInstanceAs (Decidable (surplusRaises s e = true))

/- The caller will yet put the session into the pool or disconnect it. -/
def Owes (c : Caller) (id : Nat) : Prop :=
  c.phase = .connected id ∨ (c.phase = .holding id ∧ c.surplus = true) ∨ c.phase = .ejecting id ∨
    c.phase = .disconnecting id

/- Somebody answers for every session, as long as every caller uses a block. -/
structure Covered (s : PoolState) : Prop where
  blocks : ∀ c ∈ s.callers, c.block = true
  sessions : ∀ id < s.sessions.length, id ∈ s.pool ∨ id ∈ s.closedIds ∨ ∃ c ∈ s.callers, Owes c id

section Coverage
variable {cfg : PoolConfig} {s t : PoolState} {i : Nat} {c : Caller}

/-- A debt stays with the caller who has it, unless that caller settles it. -/
theorem owes_set (here : s.callers[i]? = some c) {after : Caller} {id : Nat}
    (owed : ∃ other ∈ s.callers, Owes other id) :
    Owes c id ∨ ∃ other ∈ s.callers.set i after, Owes other id := by
  obtain ⟨other, listed, owes⟩ := owed
  obtain ⟨j, found⟩ := List.mem_iff_getElem?.mp listed
  by_cases same : j = i
  · subst same
    cases here.symm.trans found
    exact .inl owes
  · refine .inr ⟨other, ?_, owes⟩
    rw [← List.getElem?_set_ne (Ne.symm same)] at found
    exact List.mem_of_getElem? found

theorem mem_set_here (here : s.callers[i]? = some c) (after : Caller) : after ∈ s.callers.set i after :=
  List.mem_set (List.getElem?_eq_some_iff.mp here).1 after

/-- One caller goes on, and settles what it owes. -/
theorem Covered.onward (covered : Covered s) (here : s.callers[i]? = some c) (after : Caller)
    (block : after.block = c.block) (callers : t.callers = s.callers.set i after)
    (sessions : ∀ id < t.sessions.length, id < s.sessions.length ∨ Owes after id)
    (pool : ∀ id ∈ s.pool, id ∈ t.pool ∨ id ∈ t.closedIds ∨ Owes after id)
    (closed : ∀ id ∈ s.closedIds, id ∈ t.closedIds)
    (settled : ∀ id, Owes c id → id ∈ t.pool ∨ id ∈ t.closedIds ∨ Owes after id) : Covered t where
  blocks := by
    rw [callers]
    exact Parties.forall_set covered.blocks (block.trans (covered.blocks c (List.mem_of_getElem? here)))
  sessions id bound := by
    rw [callers]
    have mine : Owes after id → ∃ other ∈ s.callers.set i after, Owes other id :=
      fun owes => ⟨after, mem_set_here here after, owes⟩
    have mend : id ∈ t.pool ∨ id ∈ t.closedIds ∨ Owes after id →
        id ∈ t.pool ∨ id ∈ t.closedIds ∨ ∃ other ∈ s.callers.set i after, Owes other id :=
      fun whole => whole.imp_right (fun rest => rest.imp_right mine)
    obtain known | new := sessions id bound
    · obtain pooled | gone | owed := covered.sessions id known
      · exact mend (pool id pooled)
      · exact .inr (.inl (closed id gone))
      · obtain owes | others := owes_set here owed
        · exact mend (settled id owes)
        · exact .inr (.inr others)
    · exact .inr (.inr (mine new))

theorem Covered.swept (covered : Covered s) (out : Nat → Bool) : Covered (s.sweep out) where
  blocks := covered.blocks
  sessions id bound := by
    obtain pooled | gone | owed := covered.sessions id bound
    · cases doomed : out id with
      | true =>
        refine .inr (.inl ?_)
        simp only [PoolState.closedIds, PoolState.sweep, List.map_append, List.mem_append, List.map_map]
        exact .inr (List.mem_map.mpr ⟨id, List.mem_filter.mpr ⟨pooled, doomed⟩, rfl⟩)
      | false => exact .inl (List.mem_filter.mpr ⟨pooled, by simp [doomed]⟩)
    · refine .inr (.inl ?_)
      simp only [PoolState.closedIds, PoolState.sweep, List.map_append, List.mem_append]
      exact .inl gone
    · exact .inr (.inr owed)

/-- A caller who owes nothing goes on. -/
theorem Covered.moved (covered : Covered s) (here : s.callers[i]? = some c) (next : Phase)
    (debtless : ∀ id, ¬ Owes c id) : Covered (s.move i { c with phase := next }) := by
  apply covered.onward here { c with phase := next } rfl rfl
  · exact fun _ bound => .inl bound
  · exact fun _ pooled => .inl pooled
  · exact fun _ gone => gone
  · exact fun id owes => absurd owes (debtless id)

theorem Covered.noted (covered : Covered s) (lastHealthCheck : Int) (connReconnected connFailed : Nat) :
    Covered { s with
      lastHealthCheck := lastHealthCheck, connReconnected := connReconnected, connFailed := connFailed } :=
  ⟨covered.blocks, covered.sessions⟩

theorem Covered.acted {action : Action} (covered : Covered s) (here : s.callers[i]? = some c)
    (raises : SurplusRaises s (.act i action)) (effect : Effect cfg s i c action t) : Covered t := by
  cases effect with
  | waits out next last reconnected failed _ acquiring unfresh _ _ =>
    apply ((covered.swept out).noted last reconnected failed).moved here next
    intro id owes
    obtain phase | ⟨phase, _⟩ | phase | phase := owes
    all_goals simp [phase, Phase.acquiring, Phase.fresh] at acquiring unfresh
  | reuses out id now usedAt _ searching _ _ =>
    apply (covered.swept out).onward here { PoolState.received c id with age := some _ } rfl rfl
    · intro other bound
      exact .inl (by simpa [PoolState.reuse] using bound)
    · exact fun _ pooled => .inl pooled
    · exact fun _ gone => gone
    · intro other owes
      simp [Owes, searching] at owes
  | opens t0 connecting =>
    apply covered.onward here { c with phase := .connected s.sessions.length } rfl rfl
    · intro id bound
      simp only [PoolState.opened, List.length_append, List.length_singleton] at bound
      by_cases old : id < s.sessions.length
      · exact .inl old
      · have new : id = s.sessions.length := by omega
        exact .inr (.inl (by rw [new]))
    · exact fun _ pooled => .inl pooled
    · exact fun _ gone => gone
    · intro id owes
      simp [Owes, connecting] at owes
  | keeps id connected =>
    have block := covered.blocks c (List.mem_of_getElem? here)
    apply covered.onward here { PoolState.received c id with
      surplus := !decide (s.pool.length < cfg.maxPoolSize) } rfl rfl
    · intro other bound
      exact .inl (by simpa [PoolState.kept] using bound)
    · exact fun other pooled => .inl (mem_pool_kept.mpr (.inl pooled))
    · exact fun _ gone => gone
    · intro other owes
      have same : id = other := by simpa [Owes, connected] using owes
      subst same
      by_cases room : s.pool.length < cfg.maxPoolSize
      · exact .inl (mem_pool_kept.mpr (.inr ⟨rfl, room⟩))
      · exact .inr (.inr (.inr (.inl (by simp [PoolState.received, block, room]))))
  | leaves how id leave holding =>
    by_cases raised : how = .raised
    · rw [if_pos raised]
      apply covered.onward here { c with phase := .ejecting id } rfl rfl
      · exact fun _ bound => .inl bound
      · exact fun _ pooled => .inl pooled
      · exact fun _ gone => gone
      · intro other owes
        have same : id = other ∧ c.surplus = true := by simpa [Owes, holding] using owes
        exact .inr (.inr (.inr (.inr (.inl (by rw [same.1])))))
    · have kept : c.surplus = false := by simpa [SurplusRaises, surplusRaises, leave, raised, here] using raises
      exact covered.moved here _ (by simp [Owes, holding, kept])
  | removes id _ ejecting =>
    apply covered.onward here { c with phase := .disconnecting id } rfl rfl
    · exact fun _ bound => .inl bound
    · intro other pooled
      by_cases same : other = id
      · exact .inr (.inr (.inr (.inr (.inr (by rw [same])))))
      · exact .inl ((List.mem_erase_of_ne same).mpr pooled)
    · exact fun _ gone => gone
    · intro other owes
      have same : id = other := by simpa [Owes, ejecting] using owes
      exact .inr (.inr (.inr (.inr (.inr (by rw [same])))))
  | disconnects id disconnecting =>
    apply covered.onward here { c with phase := .done } rfl rfl
    · exact fun _ bound => .inl bound
    · exact fun _ pooled => .inl pooled
    · exact fun other gone => mem_closedIds_disconnected.mpr (.inl gone)
    · intro other owes
      have same : id = other := by simpa [Owes, disconnecting] using owes
      exact .inr (.inl (mem_closedIds_disconnected.mpr (.inr same.symm)))

theorem Covered.stepped (e : PoolEvent) (covered : Covered s) (block : e ≠ .call false)
    (raises : SurplusRaises s e) (run : poolStep cfg s e = some t) : Covered t := by
  cases e with
  | call inside =>
    cases run
    have entered : inside = true := by
      cases inside with
      | true => rfl
      | false => exact absurd rfl block
    refine ⟨Parties.forall_append covered.blocks entered, ?_⟩
    · intro id bound
      obtain pooled | gone | ⟨other, listed, owes⟩ := covered.sessions id bound
      · exact .inl pooled
      · exact .inr (.inl gone)
      · exact .inr (.inr ⟨other, List.mem_append_left _ listed, owes⟩)
  | act i action =>
    obtain ⟨c, here, acts⟩ := Option.bind_eq_some_iff.mp run
    exact covered.acted here raises (act_effect acts)
  | disconnectAll =>
    cases run
    exact covered.swept _

end Coverage

/- A session created when the pool was full is known to its own caller only. -/
structure Solitary (s : PoolState) : Prop where
  taken : ∀ c ∈ s.callers, c.surplus = true → c.taken ≠ none
  unpooled : ∀ c ∈ s.callers, ∀ id, c.surplus = true → c.taken = some id → id ∉ s.pool
  alone : ∀ (i j : Nat) c other id, s.callers[i]? = some c → c.surplus = true → c.taken = some id →
    s.callers[j]? = some other → other.taken = some id → j = i
  open_ : ∀ c ∈ s.callers, ∀ id, c.surplus = true → c.taken = some id → c.phase = .holding id → id ∉ s.closedIds

/- A session that nobody will ever disconnect. -/
structure Leaked (s : PoolState) (id : Nat) : Prop where
  known : id < s.sessions.length
  unpooled : id ∉ s.pool
  open_ : id ∉ s.closedIds
  unheld : ∀ c ∈ s.callers, c.phase.session ≠ some id ∧ c.phase.fresh ≠ some id

section Leaks
variable {cfg : PoolConfig} {s t : PoolState} {i : Nat} {c : Caller}

theorem Solitary.swept (solitary : Solitary s) (out : Nat → Bool) : Solitary (s.sweep out) where
  taken := solitary.taken
  unpooled other listed id surplus taken pooled :=
    solitary.unpooled other listed id surplus taken (List.mem_filter.mp pooled).1
  alone := solitary.alone
  open_ other listed id surplus taken holding closed := by
    obtain old | ⟨pooled, _⟩ := mem_closedIds_sweep closed
    · exact solitary.open_ other listed id surplus taken holding old
    · exact solitary.unpooled other listed id surplus taken pooled

theorem Solitary.noted (solitary : Solitary s) (lastHealthCheck : Int) (connReconnected connFailed : Nat) :
    Solitary { s with
      lastHealthCheck := lastHealthCheck, connReconnected := connReconnected, connFailed := connFailed } :=
  ⟨solitary.taken, solitary.unpooled, solitary.alone, solitary.open_⟩

/-- A caller goes on with what it has, and closes nothing but that. -/
theorem Solitary.onward (solitary : Solitary s) (here : s.callers[i]? = some c) (next : Phase)
    (callers : t.callers = s.callers.set i { c with phase := next }) (outside : ∀ id, next ≠ .holding id)
    (pool : ∀ id ∈ t.pool, id ∈ s.pool)
    (closed : ∀ id ∈ t.closedIds, id ∈ s.closedIds ∨ c.taken = some id) : Solitary t where
  taken := by
    rw [callers]
    exact Parties.forall_set solitary.taken (solitary.taken c (List.mem_of_getElem? here))
  unpooled := by
    have unpooled : ∀ other ∈ s.callers, ∀ id, other.surplus = true → other.taken = some id → id ∉ t.pool :=
      fun other listed id surplus taken pooled => solitary.unpooled other listed id surplus taken (pool id pooled)
    rw [callers]
    exact Parties.forall_set unpooled (unpooled c (List.mem_of_getElem? here))
  alone j k first second id found surplus taken found' taken' := by
    rw [callers] at found found'
    obtain ⟨rfl, rfl⟩ | ⟨_, old⟩ := Parties.of_set found
    · obtain ⟨rfl, rfl⟩ | ⟨_, old'⟩ := Parties.of_set found'
      · rfl
      · exact solitary.alone _ _ c second id here surplus taken old' taken'
    · obtain ⟨rfl, rfl⟩ | ⟨_, old'⟩ := Parties.of_set found'
      · exact solitary.alone _ _ first c id old surplus taken here taken'
      · exact solitary.alone _ _ first second id old surplus taken old' taken'
  open_ other listed id surplus taken holding gone := by
    rw [callers] at listed
    obtain ⟨j, found⟩ := List.mem_iff_getElem?.mp listed
    obtain ⟨rfl, rfl⟩ | ⟨elsewhere, old⟩ := Parties.of_set found
    · exact outside id holding
    · obtain before | mine := closed id gone
      · exact solitary.open_ other (List.mem_of_getElem? old) id surplus taken holding before
      · exact elsewhere (solitary.alone j i other c id old surplus taken here mine).symm

/-- A caller gets a connection that no surplus one is. -/
theorem Solitary.received (solitary : Solitary s) (here : s.callers[i]? = some c) (id : Nat) (after : Caller)
    (taken : after.taken = some id) (callers : t.callers = s.callers.set i after)
    (pool : ∀ other ∈ t.pool, other ∈ s.pool ∨ (other = id ∧ after.surplus = false))
    (closed : t.closedIds = s.closedIds)
    (apart : ∀ other ∈ s.callers, other.surplus = true → other.taken ≠ some id)
    (mine : after.surplus = true → id ∉ s.pool ∧ id ∉ s.closedIds ∧
      ∀ (j : Nat) other, s.callers[j]? = some other → other.taken ≠ some id) : Solitary t where
  taken := by
    rw [callers]
    exact Parties.forall_set solitary.taken (by simp [taken])
  unpooled other listed number surplus taken' pooled := by
    rw [callers] at listed
    obtain old | rfl := List.mem_or_eq_of_mem_set listed
    · obtain before | ⟨rfl, _⟩ := pool number pooled
      · exact solitary.unpooled other old number surplus taken' before
      · exact apart other old surplus taken'
    · cases taken.symm.trans taken'
      obtain before | ⟨_, shared⟩ := pool id pooled
      · exact (mine surplus).1 before
      · rw [shared] at surplus
        contradiction
  alone j k first second number found surplus taken' found' taken'' := by
    rw [callers] at found found'
    obtain ⟨rfl, rfl⟩ | ⟨_, old⟩ := Parties.of_set found
    · obtain ⟨rfl, rfl⟩ | ⟨_, old'⟩ := Parties.of_set found'
      · rfl
      · cases taken.symm.trans taken'
        exact absurd taken'' ((mine surplus).2.2 k second old')
    · obtain ⟨rfl, rfl⟩ | ⟨_, old'⟩ := Parties.of_set found'
      · cases taken.symm.trans taken''
        exact absurd taken' (apart first (List.mem_of_getElem? old) surplus)
      · exact solitary.alone j k first second number old surplus taken' old' taken''
  open_ other listed number surplus taken' holding gone := by
    rw [callers] at listed
    rw [closed] at gone
    obtain old | rfl := List.mem_or_eq_of_mem_set listed
    · exact solitary.open_ other old number surplus taken' holding gone
    · cases taken.symm.trans taken'
      exact (mine surplus).2.1 gone

theorem Solitary.acted {action : Action} (solitary : Solitary s) (inv : PoolInv cfg s)
    (here : s.callers[i]? = some c) (effect : Effect cfg s i c action t) : Solitary t := by
  have listed := List.mem_of_getElem? here
  cases effect with
  | waits out next last reconnected failed _ _ _ onward _ =>
    refine ((solitary.swept out).noted last reconnected failed).onward here next rfl ?_ (fun _ pooled => pooled)
      (fun _ gone => .inl gone)
    rintro id rfl
    contradiction
  | reuses out id now usedAt _ searching pooled _ =>
    have swept := solitary.swept out
    have unkept : c.surplus = false := by
      by_contra surplus
      have untaken := inv.waiting c listed (by simp [searching, Phase.acquiring])
      exact solitary.taken c listed (by simpa using surplus) untaken
    refine swept.received here id { PoolState.received c id with age := some _ } rfl rfl
      (fun _ there => .inl there) rfl ?_ ?_
    · intro other there surplus taken
      exact swept.unpooled other there id surplus taken pooled
    · intro surplus
      rw [PoolState.received, unkept] at surplus
      contradiction
  | opens t0 connecting =>
    exact solitary.onward here (.connected s.sessions.length) rfl (by simp) (fun _ pooled => pooled)
      (fun _ gone => .inl gone)
  | keeps id connected =>
    have unshared := inv.fresh i c id here (by simp [connected, Phase.fresh])
    refine solitary.received here id { PoolState.received c id with
      surplus := !decide (s.pool.length < cfg.maxPoolSize) } rfl rfl ?_ rfl ?_ ?_
    · intro other pooled
      obtain old | ⟨rfl, room⟩ := mem_pool_kept.mp pooled
      · exact .inl old
      · exact .inr ⟨rfl, by simp [room]⟩
    · intro other there _
      obtain ⟨j, found⟩ := List.mem_iff_getElem?.mp there
      exact inv.untaken unshared found
    · intro _
      exact ⟨unshared.unpooled, unshared.open_, fun j other found => inv.untaken unshared found⟩
  | leaves how id _ _ =>
    refine solitary.onward here _ rfl ?_ (fun _ pooled => pooled) (fun _ gone => .inl gone)
    intro other
    split <;> simp
  | removes id _ _ =>
    exact solitary.onward here (.disconnecting id) rfl (by simp) (fun _ pooled => List.mem_of_mem_erase pooled)
      (fun _ gone => .inl gone)
  | disconnects id disconnecting =>
    have taken := inv.owning c listed id (by simp [disconnecting, Phase.session])
    refine solitary.onward here .done rfl (by simp) (fun _ pooled => pooled) ?_
    intro other gone
    obtain old | rfl := mem_closedIds_disconnected.mp gone
    · exact .inl old
    · exact .inr taken

theorem Solitary.stepped (e : PoolEvent) (solitary : Solitary s) (inv : PoolInv cfg s)
    (run : poolStep cfg s e = some t) : Solitary t := by
  cases e with
  | call block =>
    cases run
    refine ⟨Parties.forall_append solitary.taken (by simp), Parties.forall_append solitary.unpooled (by simp), ?_,
      Parties.forall_append solitary.open_ (by simp)⟩
    · intro j k first second id found surplus taken found' taken'
      obtain rfl | old := Parties.of_append found
      · contradiction
      · obtain rfl | old' := Parties.of_append found'
        · contradiction
        · exact solitary.alone j k first second id old surplus taken old' taken'
  | act i action =>
    obtain ⟨c, here, acts⟩ := Option.bind_eq_some_iff.mp run
    exact solitary.acted inv here (act_effect acts)
  | disconnectAll =>
    cases run
    exact solitary.swept _

theorem Leaked.swept {id : Nat} (leaked : Leaked s id) (out : Nat → Bool) : Leaked (s.sweep out) id where
  known := leaked.known
  unpooled pooled := leaked.unpooled (List.mem_filter.mp pooled).1
  open_ closed := by
    obtain old | ⟨pooled, _⟩ := mem_closedIds_sweep closed
    · exact leaked.open_ old
    · exact leaked.unpooled pooled
  unheld := leaked.unheld

/-- A caller goes on to a phase that has nothing to do with the session. -/
theorem Leaked.onward {id : Nat} (leaked : Leaked s id) (after : Caller)
    (callers : t.callers = s.callers.set i after) (sessions : s.sessions.length ≤ t.sessions.length)
    (pool : id ∈ t.pool → id ∈ s.pool) (closed : id ∈ t.closedIds → id ∈ s.closedIds)
    (apart : after.phase.session ≠ some id ∧ after.phase.fresh ≠ some id) : Leaked t id where
  known := Nat.lt_of_lt_of_le leaked.known sessions
  unpooled pooled := leaked.unpooled (pool pooled)
  open_ gone := leaked.open_ (closed gone)
  unheld := by
    rw [callers]
    exact Parties.forall_set leaked.unheld apart

theorem received_apart {id other : Nat} (c : Caller) (differs : id ≠ other) :
    (PoolState.received c id).phase.session ≠ some other ∧ (PoolState.received c id).phase.fresh ≠ some other := by
  obtain ⟨owning, _, _, unfresh⟩ := received_phase c id
  refine ⟨fun session => differs (owning other session).symm, ?_⟩
  rw [unfresh]
  simp

theorem Leaked.acted {action : Action} {id : Nat} (leaked : Leaked s id) (here : s.callers[i]? = some c)
    (effect : Effect cfg s i c action t) : Leaked t id := by
  have apart := leaked.unheld c (List.mem_of_getElem? here)
  cases effect with
  | waits out next last reconnected failed _ _ _ onward connected =>
    refine (leaked.swept out).onward { c with phase := next } rfl (Nat.le_refl _) (fun h => h) (fun h => h) ?_
    simp [onward, connected]
  | reuses out number now usedAt _ _ pooled _ =>
    have swept := leaked.swept out
    have differs : number ≠ id := by
      rintro rfl
      exact swept.unpooled pooled
    exact swept.onward { PoolState.received c number with age := some _ } rfl (by simp [PoolState.reuse])
      (fun h => h) (fun h => h) (received_apart c differs)
  | opens t0 _ =>
    have known := leaked.known
    refine leaked.onward { c with phase := .connected s.sessions.length } rfl (by simp [PoolState.opened])
      (fun h => h) (fun h => h) ?_
    simp only [Phase.session, Phase.fresh, ne_eq, reduceCtorEq, not_false_eq_true, Option.some.injEq, true_and]
    omega
  | keeps number connected =>
    have differs : number ≠ id := by
      rintro rfl
      exact apart.2 (by simp [connected, Phase.fresh])
    refine leaked.onward { PoolState.received c number with
      surplus := !decide (s.pool.length < cfg.maxPoolSize) } rfl (by simp [PoolState.kept]) ?_ (fun h => h)
      (received_apart c differs)
    intro pooled
    obtain old | ⟨same, _⟩ := mem_pool_kept.mp pooled
    · exact old
    · exact absurd same.symm differs
  | leaves how number _ holding =>
    have differs : number ≠ id := by
      rintro rfl
      exact apart.1 (by simp [holding, Phase.session])
    refine leaked.onward _ rfl (Nat.le_refl _) (fun h => h) (fun h => h) ?_
    dsimp only
    split <;> simp [Phase.session, Phase.fresh, differs]
  | removes number _ ejecting =>
    have differs : number ≠ id := by
      rintro rfl
      exact apart.1 (by simp [ejecting, Phase.session])
    refine leaked.onward { c with phase := .disconnecting number } rfl (Nat.le_refl _)
      List.mem_of_mem_erase (fun h => h) ?_
    simp [Phase.session, Phase.fresh, differs]
  | disconnects number disconnecting =>
    have differs : number ≠ id := by
      rintro rfl
      exact apart.1 (by simp [disconnecting, Phase.session])
    refine leaked.onward { c with phase := .done } rfl (Nat.le_refl _) (fun h => h) ?_ ?_
    · intro gone
      obtain old | same := mem_closedIds_disconnected.mp gone
      · exact old
      · exact absurd same.symm differs
    · simp [Phase.session, Phase.fresh]

theorem Leaked.stepped {id : Nat} (e : PoolEvent) (leaked : Leaked s id) (run : poolStep cfg s e = some t) :
    Leaked t id := by
  cases e with
  | call block =>
    cases run
    exact ⟨leaked.known, leaked.unpooled, leaked.open_,
      Parties.forall_append leaked.unheld (by simp [Phase.session, Phase.fresh])⟩
  | act i action =>
    obtain ⟨c, here, acts⟩ := Option.bind_eq_some_iff.mp run
    exact leaked.acted here (act_effect acts)
  | disconnectAll =>
    cases run
    exact leaked.swept _

/-- A surplus connection whose block is left without an Exception is lost. -/
theorem surplus_left_leaks {e : PoolEvent} (solitary : Solitary s) (inv : PoolInv cfg s)
    (broken : ¬ SurplusRaises s e) (run : poolStep cfg s e = some t) : ∃ id, Leaked t id := by
  obtain ⟨i, how, rfl⟩ : ∃ i how, e = .act i (.leave how) := by
    unfold SurplusRaises surplusRaises at broken
    split at broken
    · exact ⟨_, _, rfl⟩
    · contradiction
  obtain ⟨c, here, acts⟩ := Option.bind_eq_some_iff.mp run
  have listed := List.mem_of_getElem? here
  simp only [SurplusRaises, surplusRaises, here, Option.all_some, Bool.or_eq_true, decide_eq_true_eq, not_or,
    Bool.not_eq_true', Bool.not_eq_false] at broken
  obtain ⟨unraised, surplus⟩ := broken
  have held : ∃ id, c.phase = .holding id ∧ t = s.move i { c with phase := .done } := by
    cases phase : c.phase with
    | holding id =>
      simp only [act, phase, unraised, if_false, Option.some.injEq] at acts
      exact ⟨id, rfl, acts.symm⟩
    | _ => simp [act, phase] at acts
  obtain ⟨id, holding, rfl⟩ := held
  have taken := inv.owning c listed id (by simp [holding, Phase.session])
  refine ⟨id, inv.takenKnown c listed id taken, solitary.unpooled c listed id surplus taken,
    solitary.open_ c listed id surplus taken holding, ?_⟩
  intro other there
  obtain ⟨j, found⟩ := List.mem_iff_getElem?.mp there
  obtain ⟨rfl, rfl⟩ | ⟨elsewhere, old⟩ := Parties.of_set found
  · simp [Phase.session, Phase.fresh]
  · constructor
    · intro session
      have taken' := inv.owning other (List.mem_of_getElem? old) id session
      exact elsewhere (solitary.alone i j c other id here surplus taken old taken')
    · intro fresh
      exact inv.untaken (inv.fresh j other id old fresh) here taken

end Leaks

/-- When every block has been left, no session is lost exactly when none that was created
for a full pool was left without an Exception. -/
theorem sessions_conserved_iff {cfg : PoolConfig} {es : List PoolEvent} {s : PoolState}
    (blocks : ∀ e ∈ es, e ≠ .call false) (run : Runs.exec (poolStep cfg) .initial es = some s)
    (quiet : ∀ c ∈ s.callers, c.phase = .done) :
    Conserved s ↔ Runs.Along (poolStep cfg) SurplusRaises .initial es := by
  constructor
  · intro conserved
    obtain along | ⟨before, e, after, u, v, _, reach, broken, step, rest⟩ := Runs.along_or_breach (poolStep cfg) run
    · exact along
    · have start : PoolInv cfg .initial ∧ Solitary .initial := by
        refine ⟨initial_inv cfg, ?_, ?_, ?_, ?_⟩ <;> simp [PoolState.initial]
      have reached : PoolInv cfg u ∧ Solitary u := by
        refine Runs.invariant (I := fun s => PoolInv cfg s ∧ Solitary s) (poolStep cfg) ?_ start reach
        rintro s e t ⟨inv, solitary⟩ step
        exact ⟨inv.stepped e step, solitary.stepped e inv step⟩
      obtain ⟨id, leaked⟩ := surplus_left_leaks reached.2 reached.1 broken step
      have lost : Leaked s id :=
        Runs.invariant (I := fun s => Leaked s id) (poolStep cfg) (fun _ e _ leaked step => leaked.stepped e step)
          leaked rest
      obtain pooled | closed := conserved id lost.known
      · exact absurd pooled lost.unpooled
      · exact absurd closed lost.open_
  · intro along
    have start : Covered .initial := by
      refine ⟨?_, ?_⟩ <;> simp [PoolState.initial]
    have both := Runs.along_and (poolStep cfg) (Runs.along_of_forall (poolStep cfg) blocks) along
    have covered : Covered s := by
      refine Runs.invariant_along (I := Covered) (poolStep cfg) ?_ start both run
      rintro s e t covered ⟨block, raises⟩ step
      exact covered.stepped e block raises step
    intro id known
    obtain pooled | closed | ⟨c, listed, owes⟩ := covered.sessions id known
    · exact .inl pooled
    · exact .inr closed
    · simp [Owes, quiet c listed] at owes

/- Two callers who find a pool for one empty: the block of the second raises. -/
def overflow : List PoolEvent :=
  [.call true, .call true, .act 0 (.readClock 10), .act 1 (.readClock 10), .act 0 (.findHealthy 10 10),
    .act 1 (.findHealthy 10 10), .act 0 (.prepare 10), .act 1 (.prepare 10), .act 0 (.smartConnect true),
    .act 1 (.smartConnect true), .act 0 .keep, .act 1 .keep, .act 0 (.leave .returned), .act 1 (.leave .raised),
    .act 1 .remove, .act 1 .disconnect]

theorem overflow_conserves :
    ∃ s, Runs.exec (poolStep { maxPoolSize := 1 }) .initial overflow = some s ∧
      Conserved s ∧ s.pool = [0] ∧ s.closedIds = [1] := by
  have whole : ∃ s, Runs.exec (poolStep { maxPoolSize := 1 }) .initial overflow = some s ∧
      (∀ c ∈ s.callers, c.phase = .done) ∧ s.pool = [0] ∧ s.closedIds = [1] := by
    refine ⟨_, rfl, ?_, rfl, rfl⟩
    decide
  obtain ⟨s, run, quiet, ends⟩ := whole
  refine ⟨s, run, (sessions_conserved_iff (by simp [overflow]) run quiet).mpr ?_, ends⟩
  decide +kernel

/- One caller more than the pool has room for, all of whom find it empty. -/
def crowd : List PoolEvent :=
  let callers := List.range 5
  callers.map (fun _ => .call true) ++ callers.map (fun i => .act i (.readClock 10)) ++
    callers.map (fun i => .act i (.findHealthy 10 10)) ++ callers.map (fun i => .act i (.prepare 10)) ++
    callers.map (fun i => .act i (.smartConnect true)) ++ callers.map (fun i => .act i .keep) ++
    callers.map (fun i => .act i (.leave .returned))

theorem crowd_leaks_session :
    ¬ ∀ cfg es s, (∀ e ∈ es, e ≠ PoolEvent.call false) → Runs.exec (poolStep cfg) .initial es = some s →
      (∀ c ∈ s.callers, c.phase = .done) → Conserved s := by
  intro claim
  have whole : ∃ s, Runs.exec (poolStep {}) .initial crowd = some s ∧ (∀ c ∈ s.callers, c.phase = .done) ∧
      s.sessions.length = 5 ∧ s.pool = [0, 1, 2, 3] ∧ s.closedIds = [] := by
    refine ⟨_, rfl, ?_, rfl, rfl, rfl⟩
    decide
  obtain ⟨s, run, quiet, opened, pooled, closed⟩ := whole
  have conserved := claim {} crowd s (by simp [crowd, List.range_succ]) run quiet 4 (by omega)
  simp [pooled, closed] at conserved

end VMachine.VMware
