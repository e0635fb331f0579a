import VMachine.OpenStack.Deadlines

/-! Whether what the engine waits for is what it reports. A deletion is reported once a poll
has found nothing, or raised anything else; a start gives up on the very status that it may
begin from; and a reboot is taken for done before Nova has begun it. -/
namespace VMachine.OpenStack
open Py Effects
open Cache (seconds)

/- The exception says that there is no such server. `NotFoundException` is what the SDK
raises for Nova's 404, `ResourceNotFound` its older name. -/
def Exc.notFound (exc : Exc) : Bool :=
  exc.statusCode = some 404 || exc.type ∈ ["NotFoundException", "ResourceNotFound"]

/- The last poll between the two states has found the server missing. -/
def FoundMissing (serverId : String) (s t : World) : Prop :=
  ∃ polls outcome exc, t.traffic = s.traffic ++ polls ++ [⟨lookupRequest serverId, outcome⟩] ∧
    outcome.vm = .error exc ∧ exc.notFound = true

def orderDeletion (env : Env) (serverId : String) : M Unit :=
  order env serverId "delete" "delete_server" [("ignore_missing", .bool true)]

/- A deletion that returns success has waited, from `u` to `v`, until the server was found
missing or for a whole minute. -/
def Confirmed (env : Env) (serverId : String) (w : World) : Prop :=
  ∀ response t, deleteVm env serverId w = .ok response t → response.status = "success" →
    ∃ u v, orderDeletion env serverId w = .ok ⟨⟩ u ∧ awaitDeletion env serverId (seconds 60) u = .ok ⟨⟩ v ∧
      (FoundMissing serverId u v ∨ u.now + seconds 60 ≤ v.now)

/- Poll number `k` of a wait that begins at `u` fails before the minute is over, for another
reason than that the server is gone, after polls that have all found it. The list of servers
that is requested next is returned. -/
structure Misjudged (env : Env) (serverId : String) (u : World) (k : Nat) : Prop where
  found : ∀ j < k, ∃ detail, ((u.atPoll env serverId j).answer env serverId).vm = .ok detail
  raised : ∃ exc, ((u.atPoll env serverId k).answer env serverId).vm = .error exc ∧ exc.notFound = false
  early : ((u.atPoll env serverId k).lookedUp env serverId).now < u.now + seconds 60
  listed : Listed (env.sdk ((u.atPoll env serverId k).lookedUp env serverId).tick listingRequest)

section Deletion
variable {env : Env} {serverId : String} {w : World}

theorem deletion_split : deletion env serverId =
    (do orderDeletion env serverId; awaitDeletion env serverId (seconds 60)) := by
  simp only [deletion, orderDeletion, order, requestDeletion, awaitDeletion, bind_assoc]

theorem concludeDeletion_success (t0 : Nat) :
    wp (concludeDeletion env serverId t0) w (fun response _ => response.status = "success") (fun _ _ => True) := by
  simp only [concludeDeletion, monotonic, wp_bind, wp_get, wp_pure, wp_modify]
  refine wp_mono (wp_true _ _) ?_ (fun _ _ _ => trivial)
  intro _ t _
  exact wp_mono (wp_true _ _) (fun _ _ _ => trivial) (fun _ _ _ => trivial)

/-- What is asked of a deletion is asked of its wait, when the list of servers is returned after it. -/
theorem confirmed_iff_wait : Confirmed env serverId w ↔
    ∀ u v, orderDeletion env serverId w = .ok ⟨⟩ u → awaitDeletion env serverId (seconds 60) u = .ok ⟨⟩ v →
      Listed (env.sdk v.tick listingRequest) → FoundMissing serverId u v ∨ u.now + seconds 60 ≤ v.now := by
  have raises : ∀ exc t, wp (fail env serverId "delete" exc : M VMOperationResponse) t (fun _ _ => False)
      (fun _ _ => True) := by
    intro exc t
    exact wp_mono (fail_traffic "delete" exc t) (fun _ _ never => never.elim) (fun _ _ _ => trivial)
  rw [Confirmed, ← wp_iff_forall_ok, deleteVm_split, wp_bind]
  change wp (tryCatch _ (fail env serverId "delete")) w _ _ ↔ _
  rw [wp_tryCatch, wp_bind]
  cases ordered : orderDeletion env serverId w with
  | error exc t =>
    have refused : deletion env serverId w = .error exc t := by
      rw [deletion_split]
      simp only [bind, EStateM.bind, ordered]
    rw [wp_iff_of_error refused]
    constructor
    · intro _ u v other
      contradiction
    · intro _
      exact wp_mono (raises exc t) (fun _ _ never => never.elim) (fun _ _ _ => trivial)
  | ok done u =>
    cases waited : awaitDeletion env serverId (seconds 60) u with
    | error exc t =>
      have refused : deletion env serverId w = .error exc t := by
        rw [deletion_split]
        simp only [bind, EStateM.bind, ordered, waited]
      rw [wp_iff_of_error refused]
      constructor
      · rintro _ u' v ⟨⟩ other
        exact absurd (waited.symm.trans other) (by simp)
      · intro _
        exact wp_mono (raises exc t) (fun _ _ never => never.elim) (fun _ _ _ => trivial)
    | ok done' v =>
      have through : deletion env serverId w = .ok ⟨⟩ v := by
        rw [deletion_split]
        simp only [bind, EStateM.bind, ordered, waited]
      have connected := wp_of_ok (deletion_connected w) through
      have concluded := @concludeDeletion_accounted env serverId w.now v connected
      rw [wp_iff_of_ok through]
      constructor
      · rintro confirmed u' v' ⟨⟩ again listed
        cases waited.symm.trans again
        have both := wp_and (wp_and confirmed concluded) (concludeDeletion_success w.now)
        cases run : concludeDeletion env serverId w.now v with
        | ok response t =>
          obtain ⟨⟨told, _⟩, success⟩ := wp_of_ok both run
          obtain ⟨_, _, first, second, outcome⟩ := told success
          cases first
          cases waited.symm.trans second
          exact outcome
        | error exc t =>
          obtain ⟨⟨_, unlisted, _⟩, _⟩ := wp_of_error both run
          exact absurd listed unlisted
      · intro every
        refine wp_mono concluded ?_ ?_
        · rintro response t ⟨listed, _⟩ _
          exact ⟨u, v, rfl, waited, every u v rfl waited listed⟩
        · intro exc t _
          exact wp_mono (raises exc t) (fun _ _ never => never.elim) (fun _ _ _ => trivial)

/-- The traffic of a wait: a lookup for each poll. -/
theorem atPoll_traffic (k : Nat) : ∃ polls, (w.atPoll env serverId k).traffic = w.traffic ++ polls := by
  induction k generalizing w with
  | zero => exact ⟨[], (List.append_nil _).symm⟩
  | succ k ih =>
    obtain ⟨polls, grown⟩ := @ih ((w.lookedUp env serverId).slept env serverPollInterval)
    refine ⟨⟨lookupRequest serverId, w.answer env serverId⟩ :: polls, ?_⟩
    rw [World.atPoll, grown]
    change (w.traffic ++ [_]) ++ polls = _
    rw [List.append_assoc]
    rfl

/-- A poll that raises is the last of its wait, and what it has found is what Nova has answered to it. -/
theorem foundMissing_iff {k : Nat} {exc : Exc}
    (raised : ((w.atPoll env serverId k).answer env serverId).vm = .error exc) :
    FoundMissing serverId w ((w.atPoll env serverId k).lookedUp env serverId) ↔ exc.notFound = true := by
  obtain ⟨polls, grown⟩ := @atPoll_traffic env serverId w k
  have whole : ((w.atPoll env serverId k).lookedUp env serverId).traffic = w.traffic ++ polls ++
      [⟨lookupRequest serverId, (w.atPoll env serverId k).answer env serverId⟩] := by
    rw [← grown]
    rfl
  constructor
  · rintro ⟨polls', outcome, exc', other, missing, gone⟩
    have last := (List.append_inj' (whole.symm.trans other) rfl).2
    simp only [List.cons.injEq, Exchange.mk.injEq, and_true, true_and] at last
    rw [← last, raised] at missing
    cases missing
    exact gone
  · intro gone
    exact ⟨polls, _, exc, whole, raised, gone⟩

/-- The wait of a deletion ends as it should, unless a poll is misjudged. -/
theorem awaitDeletion_confirmed {u v : World} {timeout : Nat} (connected : u.connected = true)
    (waited : awaitDeletion env serverId timeout u = .ok ⟨⟩ v) :
    FoundMissing serverId u v ∨ u.now + timeout ≤ v.now ∨
    ∃ k, (∀ j < k, ∃ detail, ((u.atPoll env serverId j).answer env serverId).vm = .ok detail) ∧
      (∃ exc, ((u.atPoll env serverId k).answer env serverId).vm = .error exc ∧ exc.notFound = false) ∧
      v = (u.atPoll env serverId k).lookedUp env serverId := by
  have enough : u.now + timeout ≤ u.now + pollBudget timeout * serverPollInterval :=
    Nat.add_le_add_left (pollBudget_enough timeout) _
  obtain ⟨k, before, late | ⟨early, exc, raised⟩⟩ := deletion_polls_end env serverId (pollBudget timeout) u enough
  · have ended := ok_of_wp ((awaitDeletion_late connected late before).mpr ⟨rfl, rfl⟩)
    cases waited.symm.trans ended
    exact .inr (.inl late)
  · have found : ∀ j < k, ∃ detail, ((u.atPoll env serverId j).answer env serverId).vm = .ok detail :=
      fun j fewer => (before j fewer).2
    have ended := ok_of_wp ((awaitDeletion_raised connected early found raised).mpr ⟨rfl, rfl⟩)
    cases waited.symm.trans ended
    cases gone : exc.notFound with
    | true => exact .inl ((foundMissing_iff raised).mpr gone)
    | false => exact .inr (.inr ⟨k, found, ⟨exc, raised, gone⟩, rfl⟩)

end Deletion

theorem misjudged_unconfirmed {env : Env} {serverId status : String} {w : World} {k : Nat}
    (accepted : Accepted env serverId "delete" (deletionRequest serverId) status w)
    (misjudged : Misjudged env serverId (w.ordered env serverId (deletionRequest serverId)) k) :
    ¬ Confirmed env serverId w := by
  rw [confirmed_iff_wait]
  intro confirmed
  obtain ⟨found, ⟨exc, raised, present⟩, early, listed⟩ := misjudged
  have ordered : orderDeletion env serverId w = .ok ⟨⟩ (w.ordered env serverId (deletionRequest serverId)) :=
    order_accepted accepted
  have begun := Nat.lt_of_le_of_lt (lookedUp_later serverId) early
  have waited := ok_of_wp ((awaitDeletion_raised (ordered_connected _) begun found raised).mpr ⟨rfl, rfl⟩)
  obtain missing | late := confirmed _ _ ordered waited listed
  · have gone := (foundMissing_iff raised).mp missing
    exact absurd (gone.symm.trans present) (by decide)
  · omega

/-- A deletion that returns success has seen the server gone or has waited for its whole
minute, exactly if no poll fails before that for another reason. -/
theorem deletion_confirmed_iff (env : Env) (serverId : String) (w : World) :
    Confirmed env serverId w ↔
      ∀ status k, Accepted env serverId "delete" (deletionRequest serverId) status w →
        ¬ Misjudged env serverId (w.ordered env serverId (deletionRequest serverId)) k := by
  constructor
  · intro confirmed status k accepted misjudged
    exact misjudged_unconfirmed accepted misjudged confirmed
  · intro never
    rw [confirmed_iff_wait]
    intro u v ordered waited listed
    obtain ⟨⟨status, accepted⟩, rfl⟩ := wp_of_ok order_spec ordered
    obtain missing | late | ⟨k, found, raised, rfl⟩ := awaitDeletion_confirmed (ordered_connected _) waited
    · exact .inl missing
    · exact .inr late
    · by_contra neither
      have early := Nat.lt_of_not_le (fun late => neither (.inr late))
      exact never status k accepted ⟨found, raised, early, listed⟩

/- A Nova that accepts the deletion and is out of service at the first poll. -/
def novaInterrupted : Env where
  ready := true
  listLimit := 1000
  connect _ := none
  sdk n request :=
    if request.operation = "servers" then { result := .ok ⟨.list [], none⟩ }
    else if n ≤ 4 then { result := .ok ⟨webServer "ACTIVE", none⟩ }
    else { result := .error (.foreign "HttpException" "503: Service Unavailable") }
  wall _ := 0
  lag _ := 0
  redisUp _ := true
  databaseUp _ := true
  uuid _ := "uuid"

theorem deletion_reported_unconfirmed : ¬ Confirmed novaInterrupted "srv-1" .initial := by
  have accepted : Accepted novaInterrupted "srv-1" "delete" (deletionRequest "srv-1") "ACTIVE" .initial := by
    refine ⟨rfl, ?_, by decide, _, rfl⟩
    decide +kernel
  refine misjudged_unconfirmed accepted (k := 0) ⟨by simp, ⟨_, rfl, by decide⟩, by decide, ?_⟩
  exact ⟨by decide, _, [], rfl, rfl⟩

section Operations
variable {env : Env} {serverId : String} {w : World}

/- The request that an operation sends. -/
def Operation.request (serverId : String) : Operation → SdkCall
  | .start => orderRequest serverId "start_server" []
  | .stop => orderRequest serverId "stop_server" []
  | .reboot => orderRequest serverId "reboot_server" [("reboot_type", .str "SOFT")]
  | .delete => deletionRequest serverId

/- The call returns success. -/
def Succeeds (call : M VMOperationResponse) (w : World) : Prop :=
  ∃ response t, call w = .ok response t ∧ response.status = "success"

/- Nova accepts the operation of a server in the given status, reports that status to the
next `k` polls and then one that the operation is meant to end in, before the deadline. -/
structure Settles (env : Env) (serverId : String) (operation : Operation) (status goal : String) (k : Nat)
    (w : World) : Prop where
  accepted : Accepted env serverId operation.name (operation.request serverId) status w
  lingers : ∀ j < k,
    (((w.ordered env serverId (operation.request serverId)).atPoll env serverId j).answer env serverId).status =
      some status
  reached :
    (((w.ordered env serverId (operation.request serverId)).atPoll env serverId k).answer env serverId).status =
      some goal
  meant : goal ∈ goalOf operation.name
  early : ((w.ordered env serverId (operation.request serverId)).atPoll env serverId k).now <
    (w.ordered env serverId (operation.request serverId)).now + lifecycleTimeout

/-- An accepted operation goes on to wait for its outcome, and succeeds if the wait returns. -/
theorem wp_lifecycleOperation {operation method status : String} {kwargs : List (String × Val)}
    {Q : VMOperationResponse → World → Prop} {E : Exc → World → Prop}
    (named : operationToSdk operation = .ok method)
    (asks : (if operation = "reboot" then [("reboot_type", .str "SOFT")] else []) = kwargs)
    (accepted : Accepted env serverId operation (orderRequest serverId method kwargs) status w) :
    wp (lifecycleOperation env serverId operation) w Q E ↔
      wp (awaitOutcome env serverId operation) (w.ordered env serverId (orderRequest serverId method kwargs))
        (fun _ t => wp (succeed env serverId operation w.now) t Q
          (fun exc u => wp (fail env serverId operation exc) u Q E))
        (fun exc t => wp (fail env serverId operation exc) t Q E) := by
  have split : conduct env serverId operation =
      (do order env serverId operation method kwargs; awaitOutcome env serverId operation) := by
    simp only [conduct, order, named, asks, bind_assoc]
    rfl
  rw [lifecycleOperation_split, wp_bind]
  change wp (tryCatch _ (fail env serverId operation)) w Q E ↔ _
  rw [wp_tryCatch, wp_bind, split, wp_bind, wp_iff_of_ok (order_accepted accepted)]

theorem succeed_succeeds (operation : String) (t0 : Nat) (t : World) {E : Exc → World → Prop} :
    wp (succeed env serverId operation t0) t (fun response _ => response.status = "success") E := by
  exact wp_mono (succeed_traffic operation t0 t) (fun _ _ returned => returned.1) (fun _ _ never => never.elim)

theorem fail_not_succeeds (operation : String) (exc : Exc) (t : World) :
    ¬ wp (fail env serverId operation exc : M VMOperationResponse) t (fun response _ => response.status = "success")
      (fun _ _ => False) := by
  intro succeeds
  exact wp_absurd (wp_mono (wp_and succeeds (fail_traffic operation exc t)) (fun _ _ both => both.2)
    (fun _ _ both => both.1))

/-- An accepted operation succeeds exactly if its wait returns. -/
theorem succeeds_iff_awaited {operation method status : String} {kwargs : List (String × Val)}
    (named : operationToSdk operation = .ok method)
    (asks : (if operation = "reboot" then [("reboot_type", .str "SOFT")] else []) = kwargs)
    (accepted : Accepted env serverId operation (orderRequest serverId method kwargs) status w) :
    Succeeds (lifecycleOperation env serverId operation) w ↔
      wp (awaitOutcome env serverId operation) (w.ordered env serverId (orderRequest serverId method kwargs))
        (fun _ _ => True) (fun _ _ => False) := by
  rw [Succeeds, ← wp_iff_exists_ok, wp_lifecycleOperation named asks accepted]
  constructor
  · intro succeeds
    exact wp_mono succeeds (fun _ _ _ => trivial) (fun exc t raised => fail_not_succeeds operation exc t raised)
  · intro awaited
    exact wp_mono awaited (fun _ t _ => succeed_succeeds operation w.now t) (fun _ _ never => never.elim)

section Lingering
variable {wanted : List String} {status goal : String} {timeout k : Nat} (failed : String → Exc) (late : Exc)
  (connected : w.connected = true) (early : (w.atPoll env serverId k).now < w.now + timeout)
  (lingers : ∀ j < k, ((w.atPoll env serverId j).answer env serverId).status = some status)

include connected early lingers

/-- A wait that finds the same neutral status at every poll and then a wanted one. -/
theorem wait_reaches (patient : k = 0 ∨ Neutral wanted status)
    (reached : ((w.atPoll env serverId k).answer env serverId).status = some goal) (good : goal ∈ wanted) :
    ∃ detail, waitLoop env wanted failed late serverId (w.now + timeout) (pollBudget timeout) w =
      .ok detail ((w.atPoll env serverId k).lookedUp env serverId) := by
  have neutral : ∀ j < k, ∃ detail, ((w.atPoll env serverId j).answer env serverId).vm = .ok detail ∧
      Neutral wanted (statusOf detail) := by
    intro j fewer
    obtain rfl | neutral := patient
    · exact absurd fewer (Nat.not_lt_zero j)
    · obtain ⟨detail, found, rfl⟩ := vm_of_status (lingers j fewer)
      exact ⟨detail, found, neutral⟩
  obtain ⟨detail, found, rfl⟩ := vm_of_status reached
  have decided : decision wanted failed ((w.atPoll env serverId k).answer env serverId).vm = some (.ok detail) := by
    rw [found, decision, if_pos good]
  exact ⟨detail, wait_answered connected early neutral decided⟩

/-- A wait that finds a status of failure at its first poll gives up. -/
theorem wait_aborts (some : 0 < k) (unwanted : status ∉ wanted) (fatal : status ∈ ["ERROR", "UNKNOWN"]) :
    waitLoop env wanted failed late serverId (w.now + timeout) (pollBudget timeout) w =
      .error (failed status) (w.lookedUp env serverId) := by
  have begun : (w.atPoll env serverId 0).now < w.now + timeout :=
    Nat.lt_of_le_of_lt (atPoll_mono env serverId w (Nat.zero_le k)) early
  obtain ⟨detail, found, rfl⟩ := vm_of_status (lingers 0 some)
  have decided : decision wanted failed ((w.atPoll env serverId 0).answer env serverId).vm =
      .some (.error (failed (statusOf detail))) := by
    rw [found, decision, if_neg unwanted, if_pos fatal]
  exact wait_answered connected begun (fun j none => absurd none (Nat.not_lt_zero j)) decided

end Lingering

theorem waitForActive_loop (timeout : Nat) : ∃ failed late, ∀ w, waitForActive env serverId timeout w =
    waitLoop env ["ACTIVE"] failed late serverId (w.now + timeout) (pollBudget timeout) w :=
  ⟨_, _, fun _ => rfl⟩

theorem waitForStopped_loop (timeout : Nat) : ∃ failed late, ∀ w, waitForStopped env serverId timeout w =
    waitLoop env ["SHUTOFF", "STOPPED"] failed late serverId (w.now + timeout) (pollBudget timeout) w :=
  ⟨_, _, fun _ => rfl⟩

theorem start_neutral : ∀ status ∈ validStateTransitions "start", status ≠ "ERROR" → Neutral ["ACTIVE"] status := by
  unfold Neutral
  decide

theorem stop_neutral : ∀ status ∈ validStateTransitions "stop", Neutral ["SHUTOFF", "STOPPED"] status := by
  unfold Neutral
  decide

/-- A start succeeds unless the server is still in ERROR, the status that it is started from. -/
theorem start_succeeds_iff {status goal : String} {k : Nat} (settles : Settles env serverId .start status goal k w) :
    Succeeds (startVm env serverId) w ↔ ¬ (status = "ERROR" ∧ 0 < k) := by
  obtain ⟨accepted, lingers, reached, meant, early⟩ := settles
  have awaited : Succeeds (startVm env serverId) w ↔
      wp (awaitOutcome env serverId "start") (w.ordered env serverId (Operation.start.request serverId))
        (fun _ _ => True) (fun _ _ => False) := succeeds_iff_awaited rfl rfl accepted
  obtain ⟨failed, late, loop⟩ := @waitForActive_loop env serverId lifecycleTimeout
  have connected := @ordered_connected env serverId w (Operation.start.request serverId)
  rw [awaited, awaitOutcome, if_pos rfl, wp_bind]
  by_cases fatal : status = "ERROR" ∧ 0 < k
  · obtain ⟨rfl, some⟩ := fatal
    have aborted := @wait_aborts env serverId _ ["ACTIVE"] "ERROR" _ k failed late connected early lingers some
      (by decide) (by decide)
    rw [wp_iff_of_error ((loop _).trans aborted)]
    exact iff_of_false id (fun healthy => healthy ⟨rfl, some⟩)
  · have patient : k = 0 ∨ Neutral ["ACTIVE"] status := by
      obtain none | some := Nat.eq_zero_or_pos k
      · exact .inl none
      · exact .inr (start_neutral status accepted.allowed (fun broken => fatal ⟨broken, some⟩))
    obtain ⟨detail, ended⟩ := wait_reaches failed late connected early lingers patient reached meant
    rw [wp_iff_of_ok ((loop _).trans ended)]
    exact iff_of_true trivial fatal

/-- A stop succeeds exactly if the list of servers is returned after it. -/
theorem stop_succeeds_iff {status goal : String} {k : Nat} (settles : Settles env serverId .stop status goal k w) :
    Succeeds (stopVm env serverId) w ↔
      Listed (env.sdk (((w.ordered env serverId (Operation.stop.request serverId)).atPoll env serverId k).lookedUp
        env serverId).tick listingRequest) := by
  obtain ⟨accepted, lingers, reached, meant, early⟩ := settles
  have awaited : Succeeds (stopVm env serverId) w ↔
      wp (awaitOutcome env serverId "stop") (w.ordered env serverId (Operation.stop.request serverId))
        (fun _ _ => True) (fun _ _ => False) := succeeds_iff_awaited rfl rfl accepted
  obtain ⟨failed, late, loop⟩ := @waitForStopped_loop env serverId lifecycleTimeout
  have connected := @ordered_connected env serverId w (Operation.stop.request serverId)
  have patient := stop_neutral status accepted.allowed
  obtain ⟨detail, ended⟩ := wait_reaches failed late connected early lingers (.inr patient) reached meant
  rw [awaited, awaitOutcome, if_neg (by decide), if_pos rfl, wp_bind, wp_iff_of_ok ((loop _).trans ended), wp_bind]
  have there : (((w.ordered env serverId (Operation.stop.request serverId)).atPoll env serverId k).lookedUp
      env serverId).connected = true := (atPoll_connected env serverId _ k).trans connected
  have counts := @getActiveCount_listed env _ there
  constructor
  · intro succeeds
    by_contra unlisted
    exact wp_absurd (wp_mono (wp_and succeeds counts) (fun _ _ both => unlisted both.2.1) (fun _ _ both => both.1))
  · intro listed
    exact wp_mono counts (fun _ _ _ => trivial) (fun _ _ raised => raised.1 listed)

end Operations

/-- A start or a stop whose goal is polled in time succeeds, except for a start that finds the
server still in ERROR, and a stop after which the servers cannot be listed. -/
theorem start_stop_succeeds_iff (env : Env) (serverId : String) (w : World) {operation : Operation}
    (either : operation = .start ∨ operation = .stop) {status goal : String} {k : Nat}
    (settles : Settles env serverId operation status goal k w) :
    Succeeds (operation.perform env serverId) w ↔
      ¬ (operation = .start ∧ status = "ERROR" ∧ 0 < k) ∧
      (operation = .stop → Listed (env.sdk (((w.ordered env serverId (operation.request serverId)).atPoll env
        serverId k).lookedUp env serverId).tick listingRequest)) := by
  obtain rfl | rfl := either
  · rw [Operation.perform, start_succeeds_iff settles]
    simp
  · rw [Operation.perform, stop_succeeds_iff settles]
    simp

/- A Nova that starts a server, and reports the status it has started from to the first poll. -/
def novaStarting (status : String) : Env where
  ready := true
  listLimit := 1000
  connect _ := none
  sdk n _ := { result := .ok ⟨webServer (if n ≤ 5 then status else "ACTIVE"), none⟩ }
  wall _ := 0
  lag _ := 0
  redisUp _ := true
  databaseUp _ := true
  uuid _ := "uuid"

theorem start_from_shutoff : Succeeds (Operation.start.perform (novaStarting "SHUTOFF") "srv-1") .initial := by
  have settles : Settles (novaStarting "SHUTOFF") "srv-1" .start "SHUTOFF" "ACTIVE" 1 .initial := by
    refine ⟨⟨rfl, ?_, by decide, _, rfl⟩, ?_, ?_, by decide, ?_⟩
    · decide +kernel
    · decide +kernel
    · decide +kernel
    · decide +kernel
  apply (start_stop_succeeds_iff _ "srv-1" .initial (.inl rfl) settles).mpr
  constructor
  · intro broken
    exact absurd broken.2.1 (by decide)
  · intro stops
    exact absurd stops (by decide)

theorem start_from_error_gives_up :
    ¬ ∀ env serverId w operation status goal k, (operation = .start ∨ operation = .stop) →
      Settles env serverId operation status goal k w → Succeeds (operation.perform env serverId) w := by
  intro claim
  have settles : Settles (novaStarting "ERROR") "srv-1" .start "ERROR" "ACTIVE" 1 .initial := by
    refine ⟨⟨rfl, ?_, by decide, _, rfl⟩, ?_, ?_, by decide, ?_⟩
    · decide +kernel
    · decide +kernel
    · decide +kernel
    · decide +kernel
  have succeeds := claim _ _ _ .start _ _ _ (.inl rfl) settles
  exact (start_succeeds_iff settles).mp succeeds ⟨rfl, Nat.one_pos⟩

/- After Nova has accepted the reboot, `k` polls report ACTIVE, the next `m` report REBOOT and
the one after them ACTIVE again, all before the deadline. -/
structure Reboots (env : Env) (serverId : String) (k m : Nat) (w : World) : Prop where
  accepted : Accepted env serverId "reboot" (Operation.reboot.request serverId) "ACTIVE" w
  lasting : 0 < k ∧ 0 < m
  pending : ∀ j < k,
    (((w.ordered env serverId (Operation.reboot.request serverId)).atPoll env serverId j).answer env serverId).status =
      some "ACTIVE"
  rebooting : ∀ j, k ≤ j → j < k + m →
    (((w.ordered env serverId (Operation.reboot.request serverId)).atPoll env serverId j).answer env serverId).status =
      some "REBOOT"
  active :
    (((w.ordered env serverId (Operation.reboot.request serverId)).atPoll env serverId (k + m)).answer env
      serverId).status = some "ACTIVE"
  early : ((w.ordered env serverId (Operation.reboot.request serverId)).atPoll env serverId (k + m)).now <
    (w.ordered env serverId (Operation.reboot.request serverId)).now + lifecycleTimeout

/- A reboot that returns has polled, since its request, all these statuses up to the ACTIVE
after the last REBOOT. -/
def RebootAwaited (env : Env) (serverId : String) (k m : Nat) (w : World) : Prop :=
  ∀ response t, rebootVm env serverId w = .ok response t → response.status = "success" →
    ∃ polls, t.traffic = (w.ordered env serverId (Operation.reboot.request serverId)).traffic ++ polls ∧
      List.replicate k "ACTIVE" ++ List.replicate m "REBOOT" ++ ["ACTIVE"] <+: statuses serverId polls

section Reboot
variable {env : Env} {serverId : String} {k m : Nat} {w : World}

/-- A reboot returns success after a single poll. -/
theorem reboot_returns (reboots : Reboots env serverId k m w) :
    ∃ response t poll, rebootVm env serverId w = .ok response t ∧ response.status = "success" ∧
      t.traffic = (w.ordered env serverId (Operation.reboot.request serverId)).traffic ++ [poll] := by
  obtain ⟨accepted, ⟨some, _⟩, pending, _, _, early⟩ := reboots
  obtain ⟨failed, late, loop⟩ := @waitForActive_loop env serverId lifecycleTimeout
  have connected := @ordered_connected env serverId w (Operation.reboot.request serverId)
  have begun := Nat.lt_of_le_of_lt (atPoll_mono env serverId _ (Nat.zero_le (k + m))) early
  obtain ⟨detail, ended⟩ := @wait_reaches env serverId _ ["ACTIVE"] "ACTIVE" "ACTIVE" _ 0 failed late connected begun
    (fun j none => absurd none (Nat.not_lt_zero j)) (.inl rfl) (pending 0 some) (by simp)
  have returns : wp (rebootVm env serverId) w
      (fun response t => response.status = "success" ∧ t.traffic =
        (((w.ordered env serverId (Operation.reboot.request serverId)).atPoll env serverId 0).lookedUp env
          serverId).traffic) (fun _ _ => False) := by
    refine (wp_lifecycleOperation rfl rfl accepted).mpr ?_
    rw [awaitOutcome, if_neg (by decide), if_neg (by decide), if_pos rfl, wp_bind]
    refine (wp_iff_of_ok ((loop _).trans ended)).mpr ((wp_pure _).mpr ?_)
    exact wp_mono (succeed_traffic "reboot" w.now _) (fun _ _ returned => returned) (fun _ _ never => never.elim)
  obtain ⟨response, t, run, success, same⟩ := wp_iff_exists_ok.mp returns
  exact ⟨response, t, _, run, success, same⟩

/-- One poll is too few. -/
theorem reboots_unawaited (reboots : Reboots env serverId k m w) : ¬ RebootAwaited env serverId k m w := by
  intro awaited
  obtain ⟨response, t, poll, run, success, once⟩ := reboot_returns reboots
  obtain ⟨polls, grown, seen⟩ := awaited response t run success
  obtain rfl : polls = [poll] := List.append_cancel_left (grown.symm.trans once)
  have fewer : (statuses serverId [poll]).length ≤ [poll].length := List.length_filterMap_le _ _
  have more := seen.length_le
  have lasting := reboots.lasting
  simp only [List.length_append, List.length_replicate, List.length_singleton] at more fewer
  omega

end Reboot

/-- No reboot waits for the ACTIVE after the REBOOT: it returns success before that, at the
first ACTIVE that it polls. -/
theorem reboot_never_awaited (env : Env) (serverId : String) (k m : Nat) (w : World)
    (reboots : Reboots env serverId k m w) :
    Succeeds (rebootVm env serverId) w ∧ ¬ RebootAwaited env serverId k m w := by
  constructor
  · obtain ⟨response, t, _, run, success, _⟩ := reboot_returns reboots
    exact ⟨response, t, run, success⟩
  · exact reboots_unawaited reboots

/- A Nova that goes on to report ACTIVE once after it has accepted the reboot. -/
def novaRebooting : Env where
  ready := true
  listLimit := 1000
  connect _ := none
  sdk n _ := { result := .ok ⟨webServer (if n = 8 then "REBOOT" else "ACTIVE"), none⟩ }
  wall _ := 0
  lag _ := 0
  redisUp _ := true
  databaseUp _ := true
  uuid _ := "uuid"

theorem novaRebooting_reboots : Reboots novaRebooting "srv-1" 1 1 .initial := by
  refine ⟨⟨rfl, ?_, by decide, _, rfl⟩, by decide, ?_, ?_, ?_, ?_⟩
  · decide +kernel
  · decide +kernel
  · intro j since until'
    obtain rfl : j = 1 := by omega
    decide +kernel
  · decide +kernel
  · decide +kernel

theorem reboot_never_awaited_srv :
    Succeeds (rebootVm novaRebooting "srv-1") .initial ∧ ¬ RebootAwaited novaRebooting "srv-1" 1 1 .initial :=
  reboot_never_awaited novaRebooting "srv-1" 1 1 .initial novaRebooting_reboots

theorem reboot_reported_early :
    ¬ ∀ env serverId k m w, Reboots env serverId k m w → RebootAwaited env serverId k m w := by
  intro claim
  exact reboots_unawaited novaRebooting_reboots (claim _ _ _ _ _ novaRebooting_reboots)

end VMachine.OpenStack
