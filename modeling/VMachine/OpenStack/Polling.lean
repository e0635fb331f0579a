import VMachine.OpenStack.Lifecycle

/-! How the waits of the engine run against a given sequence of Nova's answers. With a
connection at hand, the world at which the k-th poll is made is a function of the world at
which the wait begins and of what the environment answers, so a wait is followed poll by
poll up to the one that ends it. -/
namespace VMachine.OpenStack
open Py Effects
open Cache (seconds)

/- What the one who waits for a request up to the limit gets of it. -/
def Outcome.within (outcome : Outcome) (timeout : Nat) : Except Exc Reply :=
  if outcome.took ≤ timeout then outcome.result else .error (.timeoutError "")

/- What get_vm makes of what became of its request. -/
def Outcome.vm (outcome : Outcome) : Except Exc Obj := do
  let server ← outcome.within lifecycleTimeout
  if server.value.truthy then serializeVm server.value
  else .error (.appException "Server not found" 404 "server_not_found")

/- The world after a request that is waited for up to the limit. Two questions are asked:
what becomes of the request, and how late the process is woken. -/
def World.sent (env : Env) (request : SdkCall) (timeout : Nat) (w : World) : World :=
  let outcome := env.sdk w.tick request
  { w with
    tick := w.tick + 2, now := w.now + (min outcome.took timeout + env.lag (w.tick + 1))
    log := w.log ++ [request], traffic := w.traffic ++ [⟨request, outcome⟩]
    created := w.created ++ outcome.created }

/- The world after a request that is waited for until it is through. -/
def World.called (env : Env) (request : SdkCall) (w : World) : World :=
  let outcome := env.sdk w.tick request
  { w with
    tick := w.tick + 1, now := w.now + outcome.took
    log := w.log ++ [request], traffic := w.traffic ++ [⟨request, outcome⟩]
    created := w.created ++ outcome.created }

def World.slept (env : Env) (ticks : Nat) (w : World) : World :=
  { w with tick := w.tick + 1, now := w.now + (ticks + env.lag w.tick) }

/- The world after a lookup of the server. -/
def World.lookedUp (env : Env) (serverId : String) (w : World) : World :=
  w.sent env (lookupRequest serverId) lifecycleTimeout

/- The world at which a wait makes its poll number `k`, counted from 0, if none of those
before has ended it. -/
def World.atPoll (env : Env) (serverId : String) (w : World) : Nat → World
  | 0 => w
  | k + 1 => ((w.lookedUp env serverId).slept env serverPollInterval).atPoll env serverId k

/- What Nova answers to a lookup of the server that is made now. -/
def World.answer (env : Env) (serverId : String) (w : World) : Outcome := env.sdk w.tick (lookupRequest serverId)

theorem status_eq_vm (outcome : Outcome) : outcome.status = (outcome.vm.toOption).map statusOf := by
  unfold Outcome.status Outcome.vm Outcome.within
  by_cases early : outcome.took ≤ lifecycleTimeout
  · rw [if_pos early, if_pos early]
    cases outcome.result with
    | error exc => rfl
    | ok reply =>
      change (if reply.value.truthy = true then _ else none) =
        (Except.toOption (if reply.value.truthy = true then _ else _)).map statusOf
      by_cases there : reply.value.truthy = true
      · rw [if_pos there, if_pos there]
        cases serializeVm reply.value <;> rfl
      · rw [if_neg there, if_neg there]
        rfl
  · rw [if_neg early, if_neg early]
    rfl

theorem vm_of_status {outcome : Outcome} {status : String} (seen : outcome.status = some status) :
    ∃ detail, outcome.vm = .ok detail ∧ statusOf detail = status := by
  rw [status_eq_vm] at seen
  cases vm : outcome.vm with
  | error exc =>
    rw [vm] at seen
    contradiction
  | ok detail =>
    rw [vm] at seen
    exact ⟨detail, rfl, Option.some.inj seen⟩

section Requests
variable {env : Env} {w : World}

theorem online_of_connected (connected : w.connected = true) : w.online = w := by
  cases w
  cases connected
  rfl

theorem lookedUp_later (serverId : String) : w.now ≤ (w.lookedUp env serverId).now := Nat.le_add_right ..

/-- Waiting for a request up to the limit, as one step. -/
theorem wp_callWithTimeout (request : SdkCall) (timeout : Nat) {Q : Reply → World → Prop} {E : Exc → World → Prop} :
    wp (callWithTimeout env request timeout) w Q E ↔
      wp (ofExcept ((env.sdk w.tick request).within timeout)) (w.sent env request timeout) Q E := by
  by_cases early : (env.sdk w.tick request).took ≤ timeout
  · cases result : (env.sdk w.tick request).result with
    | ok reply => simp [callWithTimeout, issue, ask, elapse, early, result, Outcome.within, World.sent]
    | error exc => simp [callWithTimeout, issue, ask, elapse, early, result, Outcome.within, World.sent]
  · have least : min (env.sdk w.tick request).took timeout = timeout := Nat.min_eq_right (by omega)
    simp [callWithTimeout, issue, ask, elapse, early, Outcome.within, World.sent, least]

theorem create_run (online : connects env w = true) : create env w = .ok ⟨⟩ w.online := by
  cases run : create env w with
  | ok done t =>
    obtain ⟨_, same⟩ := wp_of_ok create_spec run
    rw [same]
  | error exc t =>
    obtain ⟨offline, _⟩ := wp_of_error create_spec run
    exact absurd (online.symm.trans offline) (by decide)

/-- A request that is waited for until it is through, as one step. -/
theorem wp_call_online (online : connects env w = true) (service operation : String) (args : List Val)
    (kwargs : List (String × Val)) {Q : Reply → World → Prop} {E : Exc → World → Prop} :
    wp (call env service operation args kwargs) w Q E ↔
      match (env.sdk w.online.tick ⟨service, operation, args, kwargs⟩).result with
      | .ok reply => Q reply (w.online.called env ⟨service, operation, args, kwargs⟩)
      | .error exc =>
        E (.openStackIntegrationException (service ++ "." ++ operation ++ " failed: " ++ exc.message))
          (w.online.called env ⟨service, operation, args, kwargs⟩) := by
  rw [call, wp_bind, wp_iff_of_ok (create_run online)]
  simp only [issue, elapse, ask, wp_bind, wp_get, wp_set, wp_pure, wp_modify]
  cases result : (env.sdk w.online.tick ⟨service, operation, args, kwargs⟩).result with
  | ok reply => rfl
  | error exc => rfl

theorem wp_call (online : connects env w = true) {service operation : String} {args : List Val}
    {kwargs : List (String × Val)} {reply : Reply}
    (answered : (env.sdk w.online.tick ⟨service, operation, args, kwargs⟩).result = .ok reply)
    {Q : Reply → World → Prop} {E : Exc → World → Prop} :
    wp (call env service operation args kwargs) w Q E ↔
      Q reply (w.online.called env ⟨service, operation, args, kwargs⟩) := by
  rw [wp_call_online online, answered]

theorem wp_novaCall (online : connects env w = true) (method : String) (timeout : Nat) (args : List Val)
    (kwargs : List (String × Val)) {Q : Reply → World → Prop} {E : Exc → World → Prop} :
    wp (novaCall env method timeout args kwargs) w Q E ↔
      wp (ofExcept ((env.sdk w.online.tick ⟨"compute", method, args, kwargs⟩).within timeout))
        (w.online.sent env ⟨"compute", method, args, kwargs⟩ timeout) Q E := by
  rw [novaCall, wp_bind, wp_iff_of_ok (create_run online), wp_callWithTimeout]

/-- A lookup of the server, as one step. -/
theorem wp_getVm (online : connects env w = true) (serverId : String) {Q : Obj → World → Prop}
    {E : Exc → World → Prop} :
    wp (getVm env serverId) w Q E ↔
      wp (ofExcept (w.online.answer env serverId).vm) (w.online.lookedUp env serverId) Q E := by
  rw [getVm, wp_bind, wp_novaCall online]
  unfold Outcome.vm World.answer lookupRequest
  cases (env.sdk w.online.tick ⟨"compute", "get_server", [.str serverId], []⟩).within lifecycleTimeout with
  | error exc => rfl
  | ok reply =>
    change wp (if reply.value.truthy = true then _ else _) _ Q E ↔
      wp (ofExcept (if reply.value.truthy = true then _ else _)) _ Q E
    split <;> rfl

theorem connects_of_connected (connected : w.connected = true) : connects env w = true := by
  simp [connects, connected]

theorem wp_getVm_connected (connected : w.connected = true) (serverId : String) {Q : Obj → World → Prop}
    {E : Exc → World → Prop} :
    wp (getVm env serverId) w Q E ↔
      wp (ofExcept (w.answer env serverId).vm) (w.lookedUp env serverId) Q E := by
  rw [wp_getVm (connects_of_connected connected), online_of_connected connected]

end Requests

section Instants
variable (env : Env) (serverId : String)

theorem atPoll_connected (w : World) (k : Nat) : (w.atPoll env serverId k).connected = w.connected := by
  induction k generalizing w with
  | zero => rfl
  | succ k ih => exact ih _

/-- Each poll takes at least the poll interval. -/
theorem atPoll_later (w : World) (k : Nat) : w.now + k * serverPollInterval ≤ (w.atPoll env serverId k).now := by
  induction k generalizing w with
  | zero => simp [World.atPoll]
  | succ k ih =>
    have rest := ih ((w.lookedUp env serverId).slept env serverPollInterval)
    have first : w.now + serverPollInterval ≤ ((w.lookedUp env serverId).slept env serverPollInterval).now := by
      have looked := @lookedUp_later env w serverId
      change w.now + serverPollInterval ≤ (w.lookedUp env serverId).now + (serverPollInterval + _)
      omega
    rw [Nat.succ_mul, World.atPoll]
    omega

theorem atPoll_add (w : World) (j k : Nat) :
    w.atPoll env serverId (j + k) = (w.atPoll env serverId j).atPoll env serverId k := by
  induction j generalizing w with
  | zero => rw [Nat.zero_add]; rfl
  | succ j ih =>
    rw [Nat.succ_add]
    exact ih _

theorem atPoll_mono (w : World) {j k : Nat} (before : j ≤ k) :
    (w.atPoll env serverId j).now ≤ (w.atPoll env serverId k).now := by
  obtain ⟨more, rfl⟩ := Nat.exists_eq_add_of_le before
  rw [atPoll_add]
  exact Nat.le_trans (Nat.le_add_right _ _) (atPoll_later env serverId _ more)

/-- A poll that is made before the deadline is within the bound on the number of polls. -/
theorem atPoll_within_budget {w : World} {timeout k : Nat}
    (early : (w.atPoll env serverId k).now < w.now + timeout) : k < pollBudget timeout := by
  have enough := pollBudget_enough timeout
  have elapsed := atPoll_later env serverId w k
  have fewer : k * serverPollInterval < pollBudget timeout * serverPollInterval := by omega
  exact Nat.lt_of_mul_lt_mul_right fewer

end Instants

/- A status at which a wait goes on polling. -/
def Neutral (wanted : List String) (status : String) : Prop := status ∉ wanted ∧ status ∉ ["ERROR", "UNKNOWN"]

section Deletion
variable {env : Env} {serverId : String} {deadline polls : Nat} {w : World} {Q : Unit → World → Prop}
  {E : Exc → World → Prop}

theorem wp_deletedLoop_past (past : deadline ≤ w.now) :
    wp (deletedLoop env serverId deadline polls) w Q E ↔ Q ⟨⟩ w := by
  cases polls with
  | zero => rfl
  | succ polls =>
    rw [deletedLoop, wp_bind]
    change wp (if w.now < deadline then _ else _) w Q E ↔ _
    rw [if_neg (Nat.not_lt.mpr past)]
    rfl

/-- A poll that finds the server is followed by the next one. -/
theorem wp_deletedLoop_found (connected : w.connected = true) (early : w.now < deadline) {detail : Obj}
    (found : (w.answer env serverId).vm = .ok detail) :
    wp (deletedLoop env serverId deadline (polls + 1)) w Q E ↔
      wp (deletedLoop env serverId deadline polls) (w.atPoll env serverId 1) Q E := by
  rw [deletedLoop, wp_bind]
  change wp (if w.now < deadline then _ else _) w Q E ↔ _
  rw [if_pos early, wp_bind, wp_tryCatch, wp_bind, wp_getVm_connected connected, found]
  rfl

/-- A poll that raises ends the wait, as a return or as a raise of its own. -/
theorem wp_deletedLoop_raised (connected : w.connected = true) (early : w.now < deadline) {exc : Exc}
    (raised : (w.answer env serverId).vm = .error exc) :
    wp (deletedLoop env serverId deadline (polls + 1)) w Q E ↔
      if exc.statusCode = some 404 then Q ⟨⟩ (w.lookedUp env serverId) else E exc (w.lookedUp env serverId) := by
  rw [deletedLoop, wp_bind]
  change wp (if w.now < deadline then _ else _) w Q E ↔ _
  rw [if_pos early, wp_bind, wp_tryCatch, wp_bind, wp_getVm_connected connected, raised, wp_ofExcept_error, wp_ite]
  split <;> rfl

theorem deletedLoop_waits (k : Nat) (connected : w.connected = true)
    (early : ∀ j < k, (w.atPoll env serverId j).now < deadline)
    (found : ∀ j < k, ∃ detail, ((w.atPoll env serverId j).answer env serverId).vm = .ok detail) :
    wp (deletedLoop env serverId deadline (k + polls)) w Q E ↔
      wp (deletedLoop env serverId deadline polls) (w.atPoll env serverId k) Q E := by
  induction k generalizing w with
  | zero => rw [Nat.zero_add]; rfl
  | succ k ih =>
    obtain ⟨detail, first⟩ := found 0 (Nat.succ_pos k)
    rw [Nat.succ_add, wp_deletedLoop_found connected (early 0 (Nat.succ_pos k)) first]
    apply ih
    · rw [atPoll_connected]
      exact connected
    · intro j fewer
      exact early (j + 1) (Nat.succ_lt_succ fewer)
    · intro j fewer
      exact found (j + 1) (Nat.succ_lt_succ fewer)

/-- While there is time, polls find the server until one of them raises. -/
theorem deletion_polls_end (env : Env) (serverId : String) (polls : Nat) (w : World)
    (enough : deadline ≤ w.now + polls * serverPollInterval) :
    ∃ k, (∀ j < k, (w.atPoll env serverId j).now < deadline ∧
        ∃ detail, ((w.atPoll env serverId j).answer env serverId).vm = .ok detail) ∧
      (deadline ≤ (w.atPoll env serverId k).now ∨
        (w.atPoll env serverId k).now < deadline ∧
          ∃ exc, ((w.atPoll env serverId k).answer env serverId).vm = .error exc) := by
  induction polls generalizing w with
  | zero => exact ⟨0, by simp, .inl (by simpa [World.atPoll] using enough)⟩
  | succ polls ih =>
    by_cases early : w.now < deadline
    · cases answer : (w.answer env serverId).vm with
      | error exc => exact ⟨0, by simp, .inr ⟨early, exc, answer⟩⟩
      | ok detail =>
        have passed := atPoll_later env serverId w 1
        rw [Nat.succ_mul] at enough
        obtain ⟨k, before, ends⟩ := ih (w.atPoll env serverId 1) (by omega)
        refine ⟨k + 1, ?_, ends⟩
        intro j fewer
        cases j with
        | zero => exact ⟨early, detail, answer⟩
        | succ j => exact before j (Nat.lt_of_succ_lt_succ fewer)
    · exact ⟨0, by simp, .inl (Nat.le_of_not_lt early)⟩

/- delete_vm waits for the server to be gone, and goes on whatever the wait raises. -/
def awaitDeletion (env : Env) (serverId : String) (timeout : Nat) : M Unit :=
  tryCatch (waitForDeleted env serverId timeout) (fun _ => return)

theorem awaitDeletion_raised {timeout k : Nat} (connected : w.connected = true)
    (early : (w.atPoll env serverId k).now < w.now + timeout)
    (found : ∀ j < k, ∃ detail, ((w.atPoll env serverId j).answer env serverId).vm = .ok detail) {exc : Exc}
    (raised : ((w.atPoll env serverId k).answer env serverId).vm = .error exc) :
    wp (awaitDeletion env serverId timeout) w Q E ↔ Q ⟨⟩ ((w.atPoll env serverId k).lookedUp env serverId) := by
  obtain ⟨spare, budget⟩ := Nat.exists_eq_add_of_lt (atPoll_within_budget env serverId early)
  have there : (w.atPoll env serverId k).connected = true := by
    rw [atPoll_connected]
    exact connected
  have before : ∀ j < k, (w.atPoll env serverId j).now < w.now + timeout := by
    intro j fewer
    exact Nat.lt_of_le_of_lt (atPoll_mono env serverId w (Nat.le_of_lt fewer)) early
  rw [awaitDeletion, wp_tryCatch, waitForDeleted, wp_bind]
  change wp (deletedLoop env serverId (w.now + timeout) (pollBudget timeout)) w _ _ ↔ _
  rw [budget, Nat.add_assoc, deletedLoop_waits k connected before found, wp_deletedLoop_raised there early raised]
  split <;> rfl

theorem awaitDeletion_late {timeout k : Nat} (connected : w.connected = true)
    (late : w.now + timeout ≤ (w.atPoll env serverId k).now)
    (found : ∀ j < k, (w.atPoll env serverId j).now < w.now + timeout ∧
      ∃ detail, ((w.atPoll env serverId j).answer env serverId).vm = .ok detail) :
    wp (awaitDeletion env serverId timeout) w Q E ↔ Q ⟨⟩ (w.atPoll env serverId k) := by
  have within : k ≤ pollBudget timeout := by
    cases k with
    | zero => exact Nat.zero_le _
    | succ k => exact Nat.succ_le_of_lt (atPoll_within_budget env serverId (found k (Nat.lt_succ_self k)).1)
  obtain ⟨spare, budget⟩ := Nat.exists_eq_add_of_le within
  rw [awaitDeletion, wp_tryCatch, waitForDeleted, wp_bind]
  change wp (deletedLoop env serverId (w.now + timeout) (pollBudget timeout)) w _ _ ↔ _
  rw [budget, deletedLoop_waits k connected (fun j fewer => (found j fewer).1) (fun j fewer => (found j fewer).2),
    wp_deletedLoop_past late]

end Deletion

section Orders
variable {env : Env} {serverId operation status method : String} {kwargs : List (String × Val)} {w : World}

/- The first half of a lifecycle operation: look the server up, check that its status
allows the operation, and send the request. -/
def order (env : Env) (serverId operation method : String) (kwargs : List (String × Val)) : M Unit := do
  let detail ← getVm env serverId
  ofExcept (validateState (statusOf detail) operation)
  let _ ← novaCall env method lifecycleTimeout [.str serverId] kwargs

def orderRequest (serverId method : String) (kwargs : List (String × Val)) : SdkCall :=
  ⟨"compute", method, [.str serverId], kwargs⟩

/- Nova is there, reports a status that allows the operation, and accepts the request. -/
structure Accepted (env : Env) (serverId operation : String) (request : SdkCall) (status : String)
    (w : World) : Prop where
  online : connects env w = true
  reported : (w.online.answer env serverId).status = some status
  allowed : status ∈ validStateTransitions operation
  taken : ∃ reply, (env.sdk (w.online.lookedUp env serverId).tick request).within lifecycleTimeout = .ok reply

/- The world once the request has been sent. -/
def World.ordered (env : Env) (serverId : String) (request : SdkCall) (w : World) : World :=
  (w.online.lookedUp env serverId).sent env request lifecycleTimeout

theorem ordered_connected (request : SdkCall) : (w.ordered env serverId request).connected = true := rfl

theorem getVm_offline (offline : connects env w = false) :
    wp (getVm env serverId) w (fun _ _ => False) (fun _ _ => True) := by
  rw [getVm, wp_bind, novaCall, wp_bind]
  refine wp_mono create_spec ?_ (fun _ _ _ => trivial)
  rintro _ _ ⟨online, _⟩
  exact absurd (online.symm.trans offline) (by decide)

theorem status_of_vm {outcome : Outcome} {detail : Obj} (answered : outcome.vm = .ok detail) :
    outcome.status = some (statusOf detail) := by
  rw [status_eq_vm, answered]
  rfl

theorem status_of_raised {outcome : Outcome} {exc : Exc} (raised : outcome.vm = .error exc) :
    outcome.status = none := by
  rw [status_eq_vm, raised]
  rfl

/-- An order returns exactly when Nova accepts it. -/
theorem order_spec : wp (order env serverId operation method kwargs) w
    (fun _ t => (∃ status, Accepted env serverId operation (orderRequest serverId method kwargs) status w) ∧
      t = w.ordered env serverId (orderRequest serverId method kwargs))
    (fun _ _ => ∀ status, ¬ Accepted env serverId operation (orderRequest serverId method kwargs) status w) := by
  rw [order, wp_bind]
  cases online : connects env w with
  | false =>
    refine wp_mono (getVm_offline online) (fun _ _ never => never.elim) ?_
    intro _ _ _ status accepted
    exact absurd (accepted.online.symm.trans online) (by decide)
  | true =>
    rw [wp_getVm online]
    cases answered : (w.online.answer env serverId).vm with
    | error exc =>
      intro status accepted
      have unseen := status_of_raised answered
      rw [accepted.reported] at unseen
      contradiction
    | ok detail =>
      have reported := status_of_vm answered
      rw [wp_ofExcept_ok, wp_bind]
      obtain ⟨allowed, valid⟩ | ⟨forbidden, message, invalid⟩ := validateState_cases (statusOf detail) operation
      · have there : (w.online.lookedUp env serverId).connected = true := rfl
        rw [valid, wp_ofExcept_ok, wp_bind, wp_novaCall (connects_of_connected there), online_of_connected there]
        cases taken : (env.sdk (w.online.lookedUp env serverId).tick
            ⟨"compute", method, [.str serverId], kwargs⟩).within lifecycleTimeout with
        | ok reply => exact ⟨⟨statusOf detail, online, reported, allowed, reply, taken⟩, rfl⟩
        | error exc =>
          intro status accepted
          obtain ⟨reply, other⟩ := accepted.taken
          exact absurd (taken.symm.trans other) (by simp)
      · rw [invalid, wp_ofExcept_error]
        intro status accepted
        obtain rfl : statusOf detail = status := Option.some.inj (reported.symm.trans accepted.reported)
        exact forbidden accepted.allowed

theorem order_accepted (accepted : Accepted env serverId operation (orderRequest serverId method kwargs) status w) :
    order env serverId operation method kwargs w = .ok ⟨⟩ (w.ordered env serverId (orderRequest serverId method kwargs)) := by
  cases run : order env serverId operation method kwargs w with
  | ok done t =>
    obtain ⟨_, rfl⟩ := wp_of_ok order_spec run
    rfl
  | error exc t => exact absurd accepted (wp_of_error order_spec run status)

end Orders

end VMachine.OpenStack
