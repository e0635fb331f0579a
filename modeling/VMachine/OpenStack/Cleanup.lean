import VMachine.OpenStack.Engine

/-! What create_vm leaves behind in Nova when it raises. A request that runs into the limit
is abandoned by the engine and still completes, so the servers that exist are those of the
request's outcome, not those of the engine's local variable. -/
namespace VMachine.OpenStack
open Py Effects

def deletionRequest (serverId : String) : SdkCall :=
  ⟨"compute", "delete_server", [.str serverId], [("ignore_missing", .bool true)]⟩

def creationRequest (request : VMCreateRequest) : SdkCall :=
  ⟨"compute", "create_server", [], createKwargs request⟩

/- What the engine relies on of Nova: only create_server creates servers, and the server
it returns is the one it has created. -/
structure NovaContract (env : Env) : Prop where
  creates : ∀ n request, request.operation ≠ "create_server" → (env.sdk n request).created = []
  returns : ∀ n request reply serverId, (env.sdk n request).result = .ok reply →
    getId reply.value = .ok serverId → ∀ id ∈ (env.sdk n request).created, id = serverId

/- If create_vm raises, every server created since has been requested to be deleted. -/
def CleansUp (env : Env) (request : VMCreateRequest) (w : World) : Prop :=
  ∀ exc t, createVm env request w = .error exc t →
    ∃ log created, t.log = w.log ++ log ∧ t.created = w.created ++ created ∧
      ∀ serverId ∈ created, deletionRequest serverId ∈ log

/- What becomes of the request that is sent once there is a connection. -/
def creation (env : Env) (request : VMCreateRequest) (w : World) : Outcome :=
  env.sdk (if w.connected then w.tick else w.tick + 1) (creationRequest request)

/- Nova has created nothing, or has returned a server with an id within the limit. -/
def CreationKnown (outcome : Outcome) : Prop :=
  outcome.created = [] ∨
  (outcome.took ≤ provisioningTimeout ∧
    ∃ reply serverId, outcome.result = .ok reply ∧ getId reply.value = .ok serverId)

/-- A known creation that returns no id, or fails, has created nothing. -/
theorem CreationKnown.unnamed {outcome : Outcome} {reply : Reply} {exc : Exc} (known : CreationKnown outcome)
    (result : outcome.result = .ok reply) (missing : getId reply.value = .error exc) : outcome.created = [] := by
  obtain none | ⟨_, other, serverId, returned, named⟩ := known
  · exact none
  · cases result.symm.trans returned
    rw [missing] at named
    contradiction

theorem CreationKnown.failed {outcome : Outcome} {exc : Exc} (known : CreationKnown outcome)
    (failed : provisioningTimeout < outcome.took ∨ outcome.result = .error exc) : outcome.created = [] := by
  obtain none | ⟨early, reply, serverId, returned, _⟩ := known
  · exact none
  · obtain late | raised := failed
    · exact absurd early (Nat.not_le.mpr late)
    · rw [returned] at raised
      contradiction

section Requests
variable {env : Env} {w : World}

/-- A request to Nova is on its way before anything can be raised about it. -/
theorem callWithTimeout_spec (request : SdkCall) (timeout : Nat) :
    wp (callWithTimeout env request timeout) w
      (fun reply t => t.log = w.log ++ [request] ∧ t.created = w.created ++ (env.sdk w.tick request).created ∧
        t.connected = w.connected ∧ (env.sdk w.tick request).took ≤ timeout ∧
        (env.sdk w.tick request).result = .ok reply)
      (fun exc t => t.log = w.log ++ [request] ∧ t.created = w.created ++ (env.sdk w.tick request).created ∧
        t.connected = w.connected ∧
        (timeout < (env.sdk w.tick request).took ∨ (env.sdk w.tick request).result = .error exc)) := by
  by_cases early : (env.sdk w.tick request).took ≤ timeout
  · cases result : (env.sdk w.tick request).result with
    | ok reply => simp [callWithTimeout, issue, ask, elapse, early, result]
    | error exc => simp [callWithTimeout, issue, ask, elapse, early, result]
  · have late : timeout < (env.sdk w.tick request).took := by omega
    simp [callWithTimeout, issue, ask, elapse, early, late]

/-- The first request of create_vm: it is not sent, or its outcome is the creation's. -/
theorem creation_spec (request : VMCreateRequest) :
    wp (novaCall env "create_server" provisioningTimeout [] (createKwargs request)) w
      (fun reply t => connects env w = true ∧ t.log = w.log ++ [creationRequest request] ∧
        t.created = w.created ++ (creation env request w).created ∧ t.connected = true ∧
        (creation env request w).took ≤ provisioningTimeout ∧ (creation env request w).result = .ok reply)
      (fun exc t =>
        (connects env w = false ∧ t.log = w.log ∧ t.created = w.created) ∨
        (connects env w = true ∧ t.log = w.log ++ [creationRequest request] ∧
          t.created = w.created ++ (creation env request w).created ∧
          (provisioningTimeout < (creation env request w).took ∨
            (creation env request w).result = .error exc))) := by
  rw [novaCall, wp_bind]
  refine wp_mono create_spec ?_ (fun _ _ unsent => .inl unsent)
  rintro _ _ ⟨sent, rfl⟩
  have outcome : env.sdk w.online.tick (creationRequest request) = creation env request w := rfl
  refine wp_mono (callWithTimeout_spec (creationRequest request) provisioningTimeout) ?_ ?_
  · intro reply t
    rw [outcome]
    exact fun returned => ⟨sent, returned⟩
  · intro exc t
    rw [outcome]
    exact fun raised => .inr ⟨sent, raised.1, raised.2.1, raised.2.2.2⟩

end Requests

/- Nothing more is created, nothing sent is forgotten, and the connection stays. -/
def settled : Frame World where
  rel s t := t.created = s.created ∧ s.log <+: t.log ∧ (s.connected = true → t.connected = true)
  refl _ := ⟨rfl, List.prefix_refl _, id⟩
  trans first second := ⟨second.1.trans first.1, first.2.1.trans second.2.1, second.2.2 ∘ first.2.2⟩

theorem settled_inert {env : Env} (nova : NovaContract env) :
    Inert env (fun operation => operation ≠ "create_server") settled where
  asked _ := settled.refl _
  passed _ _ := settled.refl _
  connected _ := ⟨rfl, List.prefix_refl _, fun _ => rfl⟩
  issued w n request other := by
    refine ⟨?_, List.prefix_append _ _, id⟩
    rw [nova.creates n request other]
    exact List.append_nil _
  audited _ _ := settled.refl _
  measured _ _ := settled.refl _

theorem engineRequests_create_nothing : ∀ operation ∈ engineRequests, operation ≠ "create_server" := by decide

section Cleanup
variable {env : Env} {w : World} {server : Val} {serverId : String}

/-- With a connection at hand, the deletion is requested whatever comes of it. -/
theorem cleanupFailedServer_requests (nova : NovaContract env) (connected : w.connected = true) :
    wp (cleanupFailedServer env serverId) w
      (fun _ t => t.log = w.log ++ [deletionRequest serverId] ∧ t.created = w.created)
      (fun _ _ => False) := by
  have nothing : (env.sdk w.tick (deletionRequest serverId)).created = [] := by
    apply nova.creates
    simp [deletionRequest]
  have there : wp (create env) w (fun _ t => t = w) (fun _ _ => False) := by simp [create, connected]
  rw [cleanupFailedServer, wp_tryCatch, requestDeletion, novaCall, wp_bind, wp_bind]
  refine wp_mono there ?_ (fun _ _ never => never.elim)
  rintro _ _ rfl
  refine wp_mono (callWithTimeout_spec (deletionRequest serverId) (Cache.seconds 30)) ?_ ?_
  · intro reply t sent
    rw [nothing, List.append_nil] at sent
    exact ⟨sent.1, sent.2.1⟩
  · intro exc t sent
    rw [nothing, List.append_nil] at sent
    exact ⟨sent.1, sent.2.1⟩

theorem removeLeftover_requests (nova : NovaContract env) (connected : w.connected = true)
    (named : getId server = .ok serverId) :
    wp (removeLeftover env server) w
      (fun _ t => t.log = w.log ++ [deletionRequest serverId] ∧ t.created = w.created)
      (fun _ _ => False) := by
  have unfolded : removeLeftover env server =
      (do let sid ← ofExcept (getId server); cleanupFailedServer env sid) := by
    cases server with
    | none => contradiction
    | bool | int | str | list | dict => rfl
  rw [unfolded, named]
  exact cleanupFailedServer_requests nova connected

/-- Without an id the clause gives up, by the exception it handles or by another one. -/
theorem removeLeftover_unnamed {exc : Exc} (unnamed : getId server = .error exc) :
    wp (removeLeftover env server) w (fun _ t => t = w) (fun _ t => t = w) := by
  cases server with
  | none => exact rfl
  | bool | int | str | list | dict =>
    unfold removeLeftover
    rw [unnamed]
    exact rfl

theorem audit_spec (action : String) (resourceId : Option String) (status : String)
    (payload : List (String × Val)) :
    wp (audit env action resourceId status payload) w
      (fun _ t => t.log = w.log ∧ t.created = w.created) (fun _ _ => False) := by
  rw [audit, enqueueAuditEntry, wp_bind]
  simp only [ask, wp_bind, wp_get, wp_set, wp_pure]
  split
  · exact ⟨rfl, rfl⟩
  · exact ⟨rfl, rfl⟩

/-- The rest of the clause sends nothing and raises. -/
theorem abandonCreate_spec {α : Type} {exc : Exc} {P : World → Prop}
    (removal : ∀ metrics, wp (removeLeftover env server) { w with metrics := metrics }
      (fun _ t => P t) (fun _ t => P t))
    (kept : ∀ s t, t.log = s.log → t.created = s.created → P s → P t) :
    wp (abandonCreate env server exc : M α) w (fun _ _ => False) (fun _ t => P t) := by
  rw [abandonCreate, wp_bind, wp_modify, wp_bind]
  refine wp_mono (removal _) ?_ (fun _ _ raised => raised)
  intro _ t removed
  rw [wp_bind]
  cases leftoverId server with
  | error other => exact removed
  | ok resourceId =>
    rw [wp_ofExcept_ok, wp_bind]
    exact wp_mono (audit_spec _ _ _ _) (fun _ u same => kept t u same.1 same.2 removed)
      (fun _ _ never => never.elim)

theorem abandonCreate_unnamed {α : Type} {exc missing : Exc} (unnamed : getId server = .error missing) :
    wp (abandonCreate env server exc : M α) w (fun _ _ => False)
      (fun _ t => t.log = w.log ∧ t.created = w.created) := by
  apply abandonCreate_spec
  · intro metrics
    refine wp_mono (removeLeftover_unnamed unnamed) ?_ ?_
    · rintro _ _ rfl
      exact ⟨rfl, rfl⟩
    · rintro _ _ rfl
      exact ⟨rfl, rfl⟩
  · rintro s t log created ⟨sameLog, sameCreated⟩
    exact ⟨log.trans sameLog, created.trans sameCreated⟩

theorem abandonCreate_named {α : Type} {exc : Exc} (nova : NovaContract env) (connected : w.connected = true)
    (named : getId server = .ok serverId) :
    wp (abandonCreate env server exc : M α) w (fun _ _ => False)
      (fun _ t => t.log = w.log ++ [deletionRequest serverId] ∧ t.created = w.created) := by
  apply abandonCreate_spec
  · intro metrics
    exact wp_mono (removeLeftover_requests nova connected named) (fun _ _ sent => sent)
      (fun _ _ never => never.elim)
  · rintro s t log created ⟨sameLog, sameCreated⟩
    exact ⟨log.trans sameLog, created.trans sameCreated⟩

end Cleanup

section Creation
variable {env : Env} {w : World} {request : VMCreateRequest}

/-- A creation the engine does not learn of is followed by no other request. -/
theorem createVm_unknown (sent : connects env w = true) (unknown : ¬ CreationKnown (creation env request w)) :
    wp (createVm env request) w (fun _ _ => False)
      (fun _ t => t.log = w.log ++ [creationRequest request] ∧
        t.created = w.created ++ (creation env request w).created) := by
  rw [createVm, wp_bind, wp_tryCatch]
  refine wp_mono (creation_spec request) ?_ ?_
  · rintro reply t ⟨_, log, created, _, early, result⟩
    cases identified : getId reply.value with
    | ok serverId => exact absurd (.inr ⟨early, reply, serverId, result, identified⟩) unknown
    | error exc =>
      rw [wp_tryCatch, provision, wp_bind, identified, wp_ofExcept_error]
      refine wp_mono (abandonCreate_unnamed identified) (fun _ _ never => never) ?_
      exact fun _ u same => ⟨same.1.trans log, same.2.trans created⟩
  · rintro exc t (⟨unsent, _⟩ | ⟨_, log, created, _⟩)
    · rw [sent] at unsent
      contradiction
    · refine wp_mono (abandonCreate_unnamed rfl) (fun _ _ never => never.elim) ?_
      exact fun _ u same => ⟨same.1.trans log, same.2.trans created⟩

/-- Nothing is created without a connection. -/
theorem createVm_unsent (unsent : connects env w = false) :
    wp (createVm env request) w (fun _ _ => False) (fun _ t => t.log = w.log ∧ t.created = w.created) := by
  rw [createVm, wp_bind, wp_tryCatch]
  refine wp_mono (creation_spec request) ?_ ?_
  · rintro reply t ⟨sent, _⟩
    rw [unsent] at sent
    contradiction
  · rintro exc t (⟨_, log, created⟩ | ⟨sent, _⟩)
    · refine wp_mono (abandonCreate_unnamed rfl) (fun _ _ never => never.elim) ?_
      exact fun _ u same => ⟨same.1.trans log, same.2.trans created⟩
    · rw [unsent] at sent
      contradiction

/-- What the engine has been told of is deleted, and nothing else is created meanwhile. -/
theorem createVm_known (nova : NovaContract env) (known : CreationKnown (creation env request w))
    (sent : connects env w = true) :
    wp (createVm env request) w (fun _ _ => True)
      (fun _ t => ∃ log, t.log = w.log ++ log ∧
        t.created = w.created ++ (creation env request w).created ∧
        ∀ serverId ∈ (creation env request w).created, deletionRequest serverId ∈ log) := by
  rw [createVm, wp_bind, wp_tryCatch]
  refine wp_mono (creation_spec request) ?_ ?_
  · rintro reply t ⟨_, log, created, connected, early, result⟩
    rw [wp_tryCatch]
    have provisioned := provision_frames (settled_inert nova) engineRequests_create_nothing reply.value t
    refine wp_mono provisioned (fun _ _ _ => trivial) ?_
    rintro exc u ⟨nothing, ⟨more, grown⟩, stays⟩
    cases identified : getId reply.value with
    | ok serverId =>
      refine wp_mono (abandonCreate_named nova (stays connected) identified) (fun _ _ never => never.elim) ?_
      rintro _ v ⟨deletion, same⟩
      refine ⟨creationRequest request :: more ++ [deletionRequest serverId], ?_, ?_, ?_⟩
      · simp [deletion, ← grown, log]
      · rw [same, nothing, created]
      · intro id member
        rw [nova.returns _ _ reply serverId result identified id member]
        simp
    | error missing =>
      refine wp_mono (abandonCreate_unnamed identified) (fun _ _ never => never.elim) ?_
      rintro _ v ⟨sameLog, sameCreated⟩
      have none := known.unnamed result identified
      refine ⟨creationRequest request :: more, by simp [sameLog, ← grown, log], ?_, by simp [none]⟩
      rw [sameCreated, nothing, created]
  · rintro exc t (⟨unsent, _⟩ | ⟨_, log, created, failed⟩)
    · rw [sent] at unsent
      contradiction
    · refine wp_mono (abandonCreate_unnamed rfl) (fun _ _ never => never.elim) ?_
      rintro _ u ⟨sameLog, sameCreated⟩
      have none := known.failed failed
      exact ⟨_, sameLog.trans log, sameCreated.trans created, by simp [none]⟩

/-- The servers of such a creation stay: the only request in the log is the creation. -/
theorem unknown_creation_leaks (sent : connects env w = true)
    (unknown : ¬ CreationKnown (creation env request w)) : ¬ CleansUp env request w := by
  intro clean
  have spec := createVm_unknown sent unknown
  cases run : createVm env request w with
  | ok detail t => exact wp_of_ok spec run
  | error exc t =>
    obtain ⟨sentLog, sentCreated⟩ := wp_of_error spec run
    obtain ⟨log, created, grown, made, deleted⟩ := clean exc t run
    have onlyCreation : log = [creationRequest request] := List.append_cancel_left (grown.symm.trans sentLog)
    have allCreated : created = (creation env request w).created :=
      List.append_cancel_left (made.symm.trans sentCreated)
    have some : created ≠ [] := fun none => unknown (.inl (allCreated ▸ none))
    obtain ⟨serverId, member⟩ := List.exists_mem_of_ne_nil created some
    have requested := deleted serverId member
    rw [onlyCreation, List.mem_singleton] at requested
    have operations := congrArg SdkCall.operation requested
    simp [deletionRequest, creationRequest] at operations

end Creation

/-- A failed create_vm leaves no server behind exactly when Nova has created none, or has
returned its id within the limit: the engine cleans up only what it has been told of. -/
theorem failed_create_cleans_up_iff {env : Env} (nova : NovaContract env) (request : VMCreateRequest)
    (w : World) :
    CleansUp env request w ↔ (connects env w = true → CreationKnown (creation env request w)) := by
  constructor
  · intro clean sent
    by_contra unknown
    exact unknown_creation_leaks sent unknown clean
  · intro known exc t run
    cases sent : connects env w with
    | true =>
      obtain ⟨log, grown, made, deleted⟩ := wp_of_error (createVm_known nova (known sent) sent) run
      exact ⟨log, _, grown, made, deleted⟩
    | false =>
      obtain ⟨sameLog, sameCreated⟩ := wp_of_error (createVm_unsent sent) run
      exact ⟨[], [], by simp [sameLog], by simp [sameCreated], by simp⟩

/- A Nova that takes the given time to create a server and finds nothing else. -/
def novaTaking (ticks : Nat) : Env where
  ready := true
  listLimit := 1000
  connect _ := none
  sdk _ request :=
    if request.operation = "create_server" then
      { result := .ok ⟨.dict [("id", .str "srv-1")], none⟩, took := ticks, created := ["srv-1"] }
    else { result := .ok ⟨.none, none⟩ }
  wall _ := 0
  lag _ := 0
  redisUp _ := true
  databaseUp _ := true
  uuid _ := "uuid"

def webRequest : VMCreateRequest where
  name := "web01"
  flavorId := "m1.small"
  imageId := "ubuntu"
  networkIds := ["net-1"]

theorem novaTaking_contract (ticks : Nat) : NovaContract (novaTaking ticks) where
  creates n request other := by simp [novaTaking, other]
  returns n request reply serverId result identified := by
    by_cases creating : request.operation = "create_server"
    · simp only [novaTaking, creating, if_true, Except.ok.injEq] at result
      rw [← result] at identified
      cases identified
      simp [novaTaking, creating, Val.text]
    · simp [novaTaking, creating]

theorem fast_creation_cleans_up : CleansUp (novaTaking 0) webRequest .initial := by
  apply (failed_create_cleans_up_iff (novaTaking_contract 0) webRequest .initial).mpr
  intro _
  exact .inr ⟨Nat.zero_le _, ⟨.dict [("id", .str "srv-1")], none⟩, "srv-1", rfl, rfl⟩

theorem slow_creation_leaks : ¬ ∀ env, NovaContract env → ∀ request w, CleansUp env request w := by
  intro claim
  have unknown : ¬ CreationKnown (creation (novaTaking (Cache.seconds 301)) webRequest .initial) := by
    rintro (none | ⟨early, _⟩)
    · contradiction
    · revert early
      decide
  exact unknown_creation_leaks rfl unknown (claim _ (novaTaking_contract _) webRequest .initial)

end VMachine.OpenStack
