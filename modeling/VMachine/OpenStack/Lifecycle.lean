import VMachine.OpenStack.Cleanup
import VMachine.OpenStack.Coherence

/-! What a lifecycle call of the engine may be taken to have done: the requests it has sent
by the time it returns or raises, and how it is counted and audited. -/
namespace VMachine.OpenStack
open Py Effects

/- A request that may change a server. -/
def mutating (x : Exchange) : Bool := decide (x.request.operation ∉ readRequests)

def lookupRequest (serverId : String) : SdkCall := ⟨"compute", "get_server", [.str serverId], []⟩

def listingRequest : SdkCall := ⟨"compute", "servers", [], []⟩

/- The status that `get_vm` reads off what became of its request. -/
def Outcome.status (outcome : Outcome) : Option String :=
  if outcome.took ≤ lifecycleTimeout then
    match outcome.result with
    | .ok reply =>
      if reply.value.truthy then
        match serializeVm reply.value with
        | .ok detail => some (statusOf detail)
        | .error _ => none
      else none
    | .error _ => none
  else none

/- The status of the server that the engine learns from an exchange. -/
def observed (serverId : String) (x : Exchange) : Option String :=
  match x.request.args with
  | [.str id] => if x.request.operation = "get_server" ∧ id = serverId then x.outcome.status else none
  | _ => none

/- The statuses polled, in order. -/
def statuses (serverId : String) (sent : List Exchange) : List String := sent.filterMap (observed serverId)

/- The statuses that the operation is meant to end in. -/
def goalOf (operation : String) : List String :=
  if operation = "stop" then ["SHUTOFF", "STOPPED"] else ["ACTIVE"]

/- One mutating request was sent, the operation's own. A status that allows it was observed
before, and the last status polled after it is the operation's goal. -/
def Honoured (serverId operation : String) (sent : List Exchange) : Prop :=
  ∃ before order after,
    sent = before ++ order :: after ∧ sent.filter mutating = [order] ∧
    operationToSdk operation = .ok order.request.operation ∧ order.request.args = [.str serverId] ∧
    (∃ status ∈ statuses serverId before, status ∈ validStateTransitions operation) ∧
    ∃ status ∈ goalOf operation, (statuses serverId after).getLast? = some status

/- The status observed first does not allow the operation. -/
def Refused (serverId operation : String) (sent : List Exchange) : Prop :=
  ∃ status, (statuses serverId sent).head? = some status ∧ status ∉ validStateTransitions operation

/- A call that returns has done what its response says, and one that is refused has done
nothing and raises a conflict. -/
def Meant (serverId operation : String) (call : M VMOperationResponse) (w : World) : Prop :=
  wp call w
    (fun response t => ∃ sent, t.traffic = w.traffic ++ sent ∧ response.status = "success" ∧
      Honoured serverId operation sent ∧ ¬ Refused serverId operation sent)
    (fun exc t => ∃ sent, t.traffic = w.traffic ++ sent ∧
      (Refused serverId operation sent → sent.filter mutating = [] ∧
        ∃ message, exc = .appException message 409 "invalid_state_transition"))

/- Nothing is requested. -/
def untraded : Frame World where
  rel s t := t.traffic = s.traffic
  refl _ := rfl
  trans first second := second.trans first

theorem untraded_inert (env : Env) : Inert env (fun _ => False) untraded where
  asked _ := rfl
  passed _ _ := rfl
  connected _ := rfl
  issued _ _ _ never := never.elim
  audited _ _ := rfl
  measured _ _ := rfl

/- What has been sent stays sent. -/
def traded : Frame World where
  rel s t := s.traffic <+: t.traffic
  refl _ := List.prefix_refl _
  trans first second := first.trans second

theorem traded_inert (env : Env) : Inert env (fun _ => True) traded where
  asked _ := List.prefix_refl _
  passed _ _ := List.prefix_refl _
  connected _ := List.prefix_refl _
  issued _ _ _ _ := List.prefix_append _ _
  audited _ _ := List.prefix_refl _
  measured _ _ := List.prefix_refl _

/- What is sent satisfies a predicate, exchange by exchange. -/
def sending (P : Exchange → Prop) : Frame World where
  rel s t := ∃ sent, t.traffic = s.traffic ++ sent ∧ ∀ x ∈ sent, P x
  refl s := ⟨[], by simp, by simp⟩
  trans := by
    rintro s t u ⟨sent, grown, each⟩ ⟨sent', grown', each'⟩
    refine ⟨sent ++ sent', by rw [grown', grown, List.append_assoc], ?_⟩
    intro x listed
    obtain first | second := List.mem_append.mp listed
    · exact each x first
    · exact each' x second

theorem sending_silent (env : Env) {allowed : String → Prop} {P : Exchange → Prop}
    (sent : ∀ n request, allowed request.operation → P ⟨request, env.sdk n request⟩) :
    Silent env allowed (sending P) where
  asked _ := (sending P).refl _
  passed _ _ := (sending P).refl _
  connected _ := (sending P).refl _
  issued w n request permitted := ⟨[_], rfl, by simpa using sent n request permitted⟩
  gauged _ _ := (sending P).refl _

theorem reads_unmutating (env : Env) (n : Nat) (request : SdkCall) (reads : request.operation ∈ readRequests) :
    mutating ⟨request, env.sdk n request⟩ = false := by
  simp [mutating, reads]

theorem listing_unobserved (env : Env) (serverId : String) (n : Nat) (request : SdkCall)
    (lists : request.operation = "servers") : observed serverId ⟨request, env.sdk n request⟩ = none := by
  unfold observed
  split
  · simp [lists]
  · rfl

section Traffic
variable {env : Env} {serverId : String}

/-- A request to Nova is not sent, or is the one exchange made. -/
theorem novaCall_traffic (method : String) (timeout : Nat) (args : List Val) (kwargs : List (String × Val))
    (w : World) :
    wp (novaCall env method timeout args kwargs) w
      (fun reply t => ∃ outcome, t.traffic = w.traffic ++ [⟨⟨"compute", method, args, kwargs⟩, outcome⟩] ∧
        outcome.took ≤ timeout ∧ outcome.result = .ok reply)
      (fun _ t => t.traffic = w.traffic ∨
        ∃ outcome, t.traffic = w.traffic ++ [⟨⟨"compute", method, args, kwargs⟩, outcome⟩] ∧
          (timeout < outcome.took ∨ ∃ exc, outcome.result = .error exc)) := by
  rw [novaCall, wp_bind]
  refine wp_mono (create_frames (untraded_inert env).toSilent w) ?_ (fun _ _ same => .inl same)
  intro _ u same
  have start : u.traffic = w.traffic := same
  rw [← start]
  by_cases early : (env.sdk u.tick ⟨"compute", method, args, kwargs⟩).took ≤ timeout
  · cases result : (env.sdk u.tick ⟨"compute", method, args, kwargs⟩).result with
    | ok reply => simp [callWithTimeout, issue, ask, elapse, early, result]
    | error exc => simp [callWithTimeout, issue, ask, elapse, early, result]
  · have late : timeout < (env.sdk u.tick ⟨"compute", method, args, kwargs⟩).took := by omega
    simp [callWithTimeout, issue, ask, elapse, early, late]

theorem observed_lookup (outcome : Outcome) :
    observed serverId ⟨lookupRequest serverId, outcome⟩ = outcome.status := by
  simp [observed, lookupRequest]

theorem lookup_unmutating (outcome : Outcome) : mutating ⟨lookupRequest serverId, outcome⟩ = false := rfl

/-- What get_vm returns is the status observed, and when it raises none was observed. -/
theorem getVm_traffic (w : World) :
    wp (getVm env serverId) w
      (fun detail t => ∃ x, t.traffic = w.traffic ++ [x] ∧ mutating x = false ∧
        observed serverId x = some (statusOf detail))
      (fun _ t => t.traffic = w.traffic ∨
        ∃ x, t.traffic = w.traffic ++ [x] ∧ mutating x = false ∧ observed serverId x = none) := by
  rw [getVm, wp_bind]
  refine wp_mono (novaCall_traffic "get_server" lifecycleTimeout [.str serverId] [] w) ?_ ?_
  · rintro reply t ⟨outcome, grown, early, result⟩
    have seen : observed serverId ⟨lookupRequest serverId, outcome⟩ = outcome.status := observed_lookup outcome
    rw [Outcome.status, if_pos early, result] at seen
    rw [wp_ite]
    by_cases there : reply.value.truthy
    · rw [if_pos there]
      simp only [there, if_true] at seen
      cases serialized : serializeVm reply.value with
      | ok detail =>
        rw [serialized] at seen
        exact ⟨_, grown, lookup_unmutating outcome, seen⟩
      | error exc =>
        rw [serialized] at seen
        exact .inr ⟨_, grown, lookup_unmutating outcome, seen⟩
    · rw [if_neg there]
      simp only [there] at seen
      exact .inr ⟨_, grown, lookup_unmutating outcome, seen⟩
  · rintro exc t (same | ⟨outcome, grown, failed⟩)
    · exact .inl same
    · refine .inr ⟨_, grown, lookup_unmutating outcome, ?_⟩
      rw [← lookupRequest, observed_lookup, Outcome.status]
      obtain late | ⟨raised, result⟩ := failed
      · rw [if_neg (Nat.not_le.mpr late)]
      · simp [result]

/- Between the two states only lookups were sent, and the last status polled is wanted. -/
def Polled (serverId : String) (wanted : List String) (s t : World) : Prop :=
  ∃ sent, t.traffic = s.traffic ++ sent ∧ (∀ x ∈ sent, mutating x = false) ∧
    ∃ status ∈ wanted, (statuses serverId sent).getLast? = some status

theorem Polled.behind {wanted : List String} {s t u : World} {x : Exchange} (polled : Polled serverId wanted t u)
    (first : t.traffic = s.traffic ++ [x]) (looks : mutating x = false) : Polled serverId wanted s u := by
  obtain ⟨sent, grown, each, status, good, last⟩ := polled
  refine ⟨x :: sent, by rw [grown, first, List.append_assoc, List.singleton_append], ?_, status, good, ?_⟩
  · intro y listed
    obtain rfl | later := List.mem_cons.mp listed
    · exact looks
    · exact each y later
  · change (([x] ++ sent).filterMap (observed serverId)).getLast? = some status
    rw [List.filterMap_append, List.getLast?_append, ← statuses, last]
    rfl

theorem Polled.ahead {wanted : List String} {s t u : World} (polled : Polled serverId wanted s t)
    (rest : (sending (fun x => mutating x = false ∧ observed serverId x = none)).rel t u) :
    Polled serverId wanted s u := by
  obtain ⟨sent, grown, each, status, good, last⟩ := polled
  obtain ⟨sent', grown', each'⟩ := rest
  have unseen : statuses serverId sent' = [] :=
    List.filterMap_eq_nil_iff.mpr (fun x listed => (each' x listed).2)
  refine ⟨sent ++ sent', by rw [grown', grown, List.append_assoc], ?_, status, good, ?_⟩
  · intro x listed
    obtain first | second := List.mem_append.mp listed
    · exact each x first
    · exact (each' x second).1
  · rw [statuses, List.filterMap_append, ← statuses, ← statuses, unseen, List.append_nil]
    exact last

/-- A wait that returns has polled a wanted status last. -/
theorem waitLoop_traffic (wanted : List String) (failed : String → Exc) (late : Exc) (deadline polls : Nat)
    (w : World) :
    wp (waitLoop env wanted failed late serverId deadline polls) w
      (fun _ t => Polled serverId wanted w t) (fun _ _ => True) := by
  induction polls generalizing w with
  | zero => trivial
  | succ polls ih =>
    rw [waitLoop, wp_bind]
    simp only [monotonic, wp_bind, wp_get, wp_pure, wp_ite]
    split
    · refine wp_mono (getVm_traffic w) ?_ (fun _ _ _ => trivial)
      rintro detail t ⟨x, grown, looks, seen⟩
      split
      · rename_i good
        refine ⟨[x], grown, by simpa using looks, statusOf detail, good, ?_⟩
        simp [statuses, seen]
      · split
        · trivial
        · refine wp_mono (asyncSleep_frames (untraded_inert env).toSilent serverPollInterval t) ?_
            (fun _ _ _ => trivial)
          intro _ u same
          refine wp_mono (ih u) ?_ (fun _ _ _ => trivial)
          intro _ v polled
          have first : u.traffic = w.traffic ++ [x] := Eq.trans same grown
          exact polled.behind first looks
    · trivial

theorem waitForActive_traffic (timeout : Nat) (w : World) :
    wp (waitForActive env serverId timeout) w (fun _ t => Polled serverId ["ACTIVE"] w t) (fun _ _ => True) :=
  waitLoop_traffic _ _ _ _ _ w

theorem waitForStopped_traffic (timeout : Nat) (w : World) :
    wp (waitForStopped env serverId timeout) w (fun _ t => Polled serverId ["SHUTOFF", "STOPPED"] w t)
      (fun _ _ => True) :=
  waitLoop_traffic _ _ _ _ _ w

theorem getActiveCount_unseen :
    Frames (sending (fun x => mutating x = false ∧ observed serverId x = none)) (getActiveCount env) := by
  have silent := @sending_silent env (fun operation => operation = "servers")
    (fun x => mutating x = false ∧ observed serverId x = none) (fun n request lists => by
      have reads : request.operation ∈ readRequests := by simp [lists, readRequests]
      exact ⟨reads_unmutating env n request reads, listing_unobserved env serverId n request lists⟩)
  exact getActiveCount_frames silent rfl

theorem awaitOutcome_traffic {operation : String} (known : operation ∈ ["start", "stop", "reboot"]) (w : World) :
    wp (awaitOutcome env serverId operation) w
      (fun _ t => Polled serverId (goalOf operation) w t) (fun _ _ => True) := by
  simp only [List.mem_cons, List.not_mem_nil, or_false] at known
  unfold awaitOutcome
  obtain rfl | rfl | rfl := known
  · rw [if_pos rfl, wp_bind, goalOf, if_neg (by decide)]
    exact wp_mono (waitForActive_traffic lifecycleTimeout w) (fun _ _ polled => polled) (fun _ _ _ => trivial)
  · rw [if_neg (by decide), if_pos rfl, wp_bind, goalOf, if_pos rfl]
    refine wp_mono (waitForStopped_traffic lifecycleTimeout w) ?_ (fun _ _ _ => trivial)
    intro _ t polled
    rw [wp_bind]
    exact wp_mono (getActiveCount_unseen t) (fun _ _ rest => polled.ahead rest) (fun _ _ _ => trivial)
  · rw [if_neg (by decide), if_neg (by decide), if_pos rfl, wp_bind, goalOf, if_neg (by decide)]
    exact wp_mono (waitForActive_traffic lifecycleTimeout w) (fun _ _ polled => polled) (fun _ _ _ => trivial)

/-- The entry that an audit writes. It says nothing else and changes nothing else. -/
theorem audit_written (operation : String) (status : String) (payload : List (String × Val)) (w : World) :
    wp (audit env ("vm." ++ operation) (some serverId) status payload) w
      (fun _ t => t.traffic = w.traffic ∧ t.metrics = w.metrics ∧
        ∃ entry, t.audits = w.audits ++ [entry] ∧ entry.action = some ("vm." ++ operation) ∧
          entry.resourceId = some serverId ∧ entry.status = status)
      (fun _ _ => False) := by
  have named : ("vm." ++ operation) ≠ "" := by
    intro empty
    have lengths := congrArg String.length empty
    simp [String.length_append] at lengths
  simp only [audit, enqueueAuditEntry, Batch.enqueueAuditEntry, ask, wp_bind, wp_get, wp_set, wp_pure, named,
    if_false, wp_modify]
  exact ⟨trivial, trivial, _, rfl, rfl, rfl, rfl⟩

theorem fail_traffic {α : Type} (operation : String) (exc : Exc) (w : World) :
    wp (fail env serverId operation exc : M α) w (fun _ _ => False)
      (fun e t => e = exc ∧ t.traffic = w.traffic) := by
  rw [fail, wp_bind, wp_modify, wp_bind]
  refine wp_mono (audit_written operation "failed" _ _) ?_ (fun _ _ never => never.elim)
  rintro _ t ⟨same, _⟩
  exact ⟨rfl, same⟩

theorem succeed_traffic (operation : String) (t0 : Nat) (w : World) :
    wp (succeed env serverId operation t0) w
      (fun response t => response.status = "success" ∧ t.traffic = w.traffic) (fun _ _ => False) := by
  simp only [succeed, monotonic, wp_bind, wp_get, wp_pure, wp_modify]
  refine wp_mono (audit_written operation "success" _ _) ?_ (fun _ _ never => never.elim)
  rintro _ t ⟨same, _⟩
  exact ⟨trivial, same⟩

theorem validateState_cases (status operation : String) :
    (status ∈ validStateTransitions operation ∧ validateState status operation = .ok ()) ∨
    (status ∉ validStateTransitions operation ∧ ∃ message, validateState status operation =
      .error (.appException message 409 "invalid_state_transition")) := by
  unfold validateState
  by_cases allowed : status ∈ validStateTransitions operation
  · exact .inl ⟨allowed, if_pos allowed⟩
  · exact .inr ⟨allowed, _, if_neg allowed⟩

theorem operationToSdk_known {operation : String} (known : operation ∈ ["start", "stop", "reboot"]) :
    ∃ sdkMethod, operationToSdk operation = .ok sdkMethod ∧ sdkMethod ∉ readRequests := by
  simp only [List.mem_cons, List.not_mem_nil, or_false] at known
  obtain rfl | rfl | rfl := known
  · exact ⟨"start_server", rfl, by decide⟩
  · exact ⟨"stop_server", rfl, by decide⟩
  · exact ⟨"reboot_server", rfl, by decide⟩

/-- A first status that allows the operation is no refusal, whatever follows. -/
theorem not_refused {operation status : String} {x : Exchange} {rest : List Exchange}
    (seen : observed serverId x = some status) (allowed : status ∈ validStateTransitions operation) :
    ¬ Refused serverId operation (x :: rest) := by
  rintro ⟨other, first, forbidden⟩
  simp only [statuses, List.filterMap_cons, seen, List.head?_cons, Option.some.injEq] at first
  exact forbidden (first ▸ allowed)

/-- The operation's request, its outcome and the count, once the status has been found to allow it. -/
theorem ordered_traffic {operation sdkMethod : String} (known : operation ∈ ["start", "stop", "reboot"])
    (t0 : Nat) (kwargs : List (String × Val)) (w : World) :
    wp (do
        let _ ← novaCall env sdkMethod lifecycleTimeout [.str serverId] kwargs
        awaitOutcome env serverId operation
        succeed env serverId operation t0) w
      (fun response t => ∃ order after, t.traffic = w.traffic ++ order :: after ∧ response.status = "success" ∧
        order.request = ⟨"compute", sdkMethod, [.str serverId], kwargs⟩ ∧ (∀ x ∈ after, mutating x = false) ∧
        ∃ status ∈ goalOf operation, (statuses serverId after).getLast? = some status)
      (fun _ t => w.traffic <+: t.traffic) := by
  rw [wp_bind]
  refine wp_mono (novaCall_traffic sdkMethod lifecycleTimeout [.str serverId] kwargs w) ?_ ?_
  · rintro reply t ⟨outcome, sent, _⟩
    have grown : w.traffic <+: t.traffic := sent ▸ List.prefix_append _ _
    rw [wp_bind]
    refine wp_mono (wp_and (awaitOutcome_traffic known t)
      (awaitOutcome_frames (traded_inert env).toSilent (fun _ _ => trivial) serverId operation t)) ?_ ?_
    · rintro _ u ⟨⟨after, polled, looks, goal⟩, _⟩
      refine wp_mono (succeed_traffic operation t0 u) ?_ (fun _ _ never => never.elim)
      rintro response v ⟨success, same⟩
      refine ⟨⟨⟨"compute", sdkMethod, [.str serverId], kwargs⟩, outcome⟩, after, ?_, success, rfl, looks, goal⟩
      rw [same, polled, sent, List.append_assoc]
      rfl
    · rintro _ u ⟨_, more⟩
      exact grown.trans more
  · rintro exc t (same | ⟨outcome, sent, _⟩)
    · exact same ▸ List.prefix_refl _
    · exact sent ▸ List.prefix_append _ _

theorem lifecycleOperation_meant {operation : String} (known : operation ∈ ["start", "stop", "reboot"])
    (w : World) : Meant serverId operation (lifecycleOperation env serverId operation) w := by
  unfold Meant lifecycleOperation
  rw [wp_bind]
  change wp (tryCatch _ (fail env serverId operation)) w _ _
  rw [wp_tryCatch, wp_bind]
  refine wp_mono (getVm_traffic w) ?_ ?_
  · rintro detail t ⟨x, grown, looks, seen⟩
    obtain ⟨allowed, valid⟩ | ⟨forbidden, message, invalid⟩ := validateState_cases (statusOf detail) operation
    · obtain ⟨sdkMethod, named, mutates⟩ := operationToSdk_known known
      rw [wp_bind, valid, wp_ofExcept_ok, wp_bind, named, wp_ofExcept_ok]
      refine wp_mono (ordered_traffic known w.now _ t) ?_ ?_
      · rintro response u ⟨order, after, sent, success, request, polls, goal⟩
        have whole : u.traffic = w.traffic ++ (x :: order :: after) := by rw [sent, grown]; simp
        refine ⟨x :: order :: after, whole, success, ?_, not_refused seen allowed⟩
        refine ⟨[x], order, after, rfl, ?_, by rw [request]; exact named, by rw [request], ?_, goal⟩
        · have none : after.filter mutating = [] :=
            List.filter_eq_nil_iff.mpr (fun y listed => by simp [polls y listed])
          have changes : mutating order = true := by simp [mutating, request, mutates]
          simp [looks, changes, none]
        · exact ⟨statusOf detail, by simp [statuses, seen], allowed⟩
      · intro exc u more
        refine wp_mono (fail_traffic operation exc u) (fun _ _ never => never.elim) ?_
        rintro _ v ⟨_, same⟩
        obtain ⟨rest, sent⟩ := more
        refine ⟨x :: rest, ?_, fun refused => absurd refused (not_refused seen allowed)⟩
        rw [same, ← sent, grown, List.append_assoc]
        rfl
    · rw [wp_bind, invalid, wp_ofExcept_error]
      refine wp_mono (fail_traffic operation _ t) (fun _ _ never => never.elim) ?_
      rintro _ u ⟨rfl, same⟩
      refine ⟨[x], same.trans grown, fun _ => ⟨?_, message, rfl⟩⟩
      simp [looks]
  · intro exc t unseen
    refine wp_mono (fail_traffic operation exc t) (fun _ _ never => never.elim) ?_
    rintro _ u ⟨_, same⟩
    obtain before | ⟨x, grown, looks, unseen⟩ := unseen
    · refine ⟨[], by rw [same, before, List.append_nil], ?_⟩
      rintro ⟨status, first, _⟩
      cases first
    · refine ⟨[x], same.trans grown, ?_⟩
      rintro ⟨status, first, _⟩
      simp [statuses, unseen] at first

end Traffic

/-- Whatever Nova answers, a lifecycle call that returns success has sent its one request
after a status that allows it and has seen its goal last, and a refused one changes nothing. -/
theorem lifecycle_success_meant (env : Env) (serverId : String) (w : World) :
    Meant serverId "start" (startVm env serverId) w ∧ Meant serverId "stop" (stopVm env serverId) w ∧
      Meant serverId "reboot" (rebootVm env serverId) w := by
  refine ⟨?_, ?_, ?_⟩
  · exact lifecycleOperation_meant (by decide) w
  · exact lifecycleOperation_meant (by decide) w
  · exact lifecycleOperation_meant (by decide) w

inductive Operation where
  | start
  | stop
  | reboot
  | delete
  deriving Repr, DecidableEq

def Operation.name : Operation → String
  | .start => "start"
  | .stop => "stop"
  | .reboot => "reboot"
  | .delete => "delete"

def Operation.perform (env : Env) (serverId : String) : Operation → M VMOperationResponse
  | .start => startVm env serverId
  | .stop => stopVm env serverId
  | .reboot => rebootVm env serverId
  | .delete => deleteVm env serverId

/- Between the two states one counter of the operation was incremented once, and one audit
entry was enqueued, both with the given status. -/
def Accounted (serverId operation status : String) (s t : World) : Prop :=
  t.metrics.lifecycleOperations = s.metrics.lifecycleOperations ++ [(operation, status)] ∧
  ∃ entry, t.audits = s.audits ++ [entry] ∧ entry.action = some ("vm." ++ operation) ∧
    entry.resourceId = some serverId ∧ entry.status = status

def AccountedOnce (env : Env) (serverId : String) (operation : Operation) (w : World) : Prop :=
  wp (operation.perform env serverId) w
    (fun _ t => Accounted serverId operation.name "success" w t)
    (fun _ t => Accounted serverId operation.name "failed" w t)

/- Nothing is counted and nothing audited. -/
def unaccounted : Frame World where
  rel s t := t.metrics.lifecycleOperations = s.metrics.lifecycleOperations ∧ t.audits = s.audits
  refl _ := ⟨rfl, rfl⟩
  trans first second := ⟨second.1.trans first.1, second.2.trans first.2⟩

theorem unaccounted_silent (env : Env) : Silent env (fun _ => True) unaccounted where
  asked _ := ⟨rfl, rfl⟩
  passed _ _ := ⟨rfl, rfl⟩
  connected _ := ⟨rfl, rfl⟩
  issued _ _ _ _ := ⟨rfl, rfl⟩
  gauged _ _ := ⟨rfl, rfl⟩

theorem Accounted.after {serverId operation status : String} {s t u : World}
    (accounted : Accounted serverId operation status t u) (before : unaccounted.rel s t) :
    Accounted serverId operation status s u := by
  obtain ⟨counters, audits⟩ := before
  unfold Accounted at accounted ⊢
  rw [← counters, ← audits]
  exact accounted

section Accounts
variable {env : Env} {serverId : String}

theorem fail_accounted {α : Type} (operation : String) (exc : Exc) (w : World) :
    wp (fail env serverId operation exc : M α) w (fun _ _ => False)
      (fun _ t => Accounted serverId operation "failed" w t) := by
  rw [fail, wp_bind, wp_modify, wp_bind]
  refine wp_mono (audit_written operation "failed" _ _) ?_ (fun _ _ never => never.elim)
  rintro _ t ⟨_, counters, entry⟩
  exact ⟨by rw [counters], entry⟩

theorem succeed_accounted (operation : String) (t0 : Nat) (w : World) :
    wp (succeed env serverId operation t0) w
      (fun _ t => Accounted serverId operation "success" w t) (fun _ _ => False) := by
  simp only [succeed, monotonic, wp_bind, wp_get, wp_pure, wp_modify]
  refine wp_mono (audit_written operation "success" _ _) ?_ (fun _ _ never => never.elim)
  rintro _ t ⟨_, counters, entry⟩
  exact ⟨by rw [counters], entry⟩

/- The part of an operation before it is counted. -/
def conduct (env : Env) (serverId operation : String) : M Unit := do
  let detail ← getVm env serverId
  ofExcept (validateState (statusOf detail) operation)
  let sdkMethod ← ofExcept (operationToSdk operation)
  let _ ← novaCall env sdkMethod lifecycleTimeout [.str serverId]
    (if operation = "reboot" then [("reboot_type", .str "SOFT")] else [])
  awaitOutcome env serverId operation

def deletion (env : Env) (serverId : String) : M Unit := do
  let detail ← getVm env serverId
  ofExcept (validateState (statusOf detail) "delete")
  requestDeletion env serverId lifecycleTimeout
  tryCatch (waitForDeleted env serverId (Cache.seconds 60)) (fun _ => return)

/- The rest of a deletion: it is counted, the gauge is refreshed and the entry written. -/
def concludeDeletion (env : Env) (serverId : String) (t0 : Nat) : M VMOperationResponse := do
  let elapsed := (← monotonic) - t0
  modify (fun w => { w with metrics := { w.metrics with
    lifecycleOperations := w.metrics.lifecycleOperations ++ [("delete", "success")] } })
  let _ ← getActiveCount env
  audit env "vm.delete" (some serverId) "success" []
  return ⟨serverId, "delete", "success", elapsed⟩

theorem conduct_frames {F : Frame World} (silent : Silent env (fun _ => True) F) (operation : String) :
    Frames F (conduct env serverId operation) := by
  apply frames_bind (getVm_frames silent (fun _ _ => trivial) serverId)
  intro detail
  apply frames_bind (ofExcept_frames _)
  intro _
  apply frames_bind (ofExcept_frames _)
  intro sdkMethod
  apply frames_bind (novaCall_frames silent _ _ _ trivial)
  intro _
  exact awaitOutcome_frames silent (fun _ _ => trivial) serverId operation

theorem deletion_frames {F : Frame World} (silent : Silent env (fun _ => True) F) :
    Frames F (deletion env serverId) := by
  apply frames_bind (getVm_frames silent (fun _ _ => trivial) serverId)
  intro detail
  apply frames_bind (ofExcept_frames _)
  intro _
  apply frames_bind (frames_bind (novaCall_frames silent _ _ _ trivial) (fun _ => frames_pure _))
  intro _
  exact frames_tryCatch (waitForDeleted_frames silent (fun _ _ => trivial) _ _) (fun _ => frames_pure _)

theorem lifecycleOperation_split (operation : String) : lifecycleOperation env serverId operation = (do
    let t0 ← monotonic
    tryCatch (do conduct env serverId operation; succeed env serverId operation t0)
      (fail env serverId operation)) := by
  simp only [lifecycleOperation, conduct, bind_assoc]

theorem lifecycleOperation_accounted (operation : String) (w : World) :
    wp (lifecycleOperation env serverId operation) w
      (fun _ t => Accounted serverId operation "success" w t)
      (fun _ t => Accounted serverId operation "failed" w t) := by
  rw [lifecycleOperation_split, wp_bind]
  change wp (tryCatch _ (fail env serverId operation)) w _ _
  rw [wp_tryCatch, wp_bind]
  refine wp_mono (conduct_frames (unaccounted_silent env) operation w) ?_ ?_
  · intro _ t same
    refine wp_mono (succeed_accounted operation w.now t) ?_ (fun _ _ never => never.elim)
    intro _ u accounted
    exact accounted.after same
  · intro exc t same
    refine wp_mono (fail_accounted operation exc t) (fun _ _ never => never.elim) ?_
    intro _ u accounted
    exact accounted.after same

/- A connection that is there stays. -/
def linked : Frame World where
  rel s t := s.connected = true → t.connected = true
  refl _ := id
  trans first second := second ∘ first

theorem linked_silent (env : Env) : Silent env (fun _ => True) linked where
  asked _ := id
  passed _ _ := id
  connected _ := fun _ => rfl
  issued _ _ _ _ := id
  gauged _ _ := id

theorem novaCall_connected (method : String) (timeout : Nat) (args : List Val) (kwargs : List (String × Val))
    (w : World) :
    wp (novaCall env method timeout args kwargs) w (fun _ t => t.connected = true) (fun _ _ => True) := by
  rw [novaCall, wp_bind]
  refine wp_mono create_spec ?_ (fun _ _ _ => trivial)
  rintro _ t ⟨_, rfl⟩
  refine wp_mono (callWithTimeout_frames (linked_silent env) timeout trivial w.online) ?_ (fun _ _ _ => trivial)
  intro _ u kept
  exact kept rfl

theorem getVm_connected (w : World) :
    wp (getVm env serverId) w (fun _ t => t.connected = true) (fun _ _ => True) := by
  rw [getVm, wp_bind]
  refine wp_mono (novaCall_connected _ _ _ _ w) ?_ (fun _ _ _ => trivial)
  intro reply t connected
  have checked : Frames linked (if reply.value.truthy = true then ofExcept (serializeVm reply.value)
      else throw (.appException "Server not found" 404 "server_not_found") : M Obj) :=
    frames_ite _ (ofExcept_frames _) (frames_throw _)
  exact wp_mono (checked t) (fun _ _ kept => kept connected) (fun _ _ _ => trivial)

theorem deletion_connected (w : World) :
    wp (deletion env serverId) w (fun _ t => t.connected = true) (fun _ _ => True) := by
  rw [deletion, wp_bind]
  refine wp_mono (getVm_connected w) ?_ (fun _ _ _ => trivial)
  intro detail t connected
  have rest : Frames linked (do
      ofExcept (validateState (statusOf detail) "delete")
      requestDeletion env serverId lifecycleTimeout
      tryCatch (waitForDeleted env serverId (Cache.seconds 60)) (fun _ => return) : M Unit) := by
    apply frames_bind (ofExcept_frames _)
    intro _
    apply frames_bind (frames_bind (novaCall_frames (linked_silent env) _ _ _ trivial) (fun _ => frames_pure _))
    intro _
    exact frames_tryCatch (waitForDeleted_frames (linked_silent env) (fun _ _ => trivial) _ _)
      (fun _ => frames_pure _)
  exact wp_mono (rest t) (fun _ _ kept => kept connected) (fun _ _ _ => trivial)

/- The list of servers comes within the limit, and every one of them serializes. -/
def Listed (outcome : Outcome) : Prop :=
  outcome.took ≤ lifecycleTimeout ∧
  ∃ reply details, outcome.result = .ok reply ∧ comprehend serializeVm reply = .ok details

/-- With a connection at hand, the gauge is refreshed exactly when Nova answers the listing. -/
theorem getActiveCount_listed {w : World} (connected : w.connected = true) :
    wp (getActiveCount env) w
      (fun _ t => Listed (env.sdk w.tick listingRequest) ∧ unaccounted.rel w t)
      (fun _ t => ¬ Listed (env.sdk w.tick listingRequest) ∧ unaccounted.rel w t) := by
  have there : wp (create env) w (fun _ t => t = w) (fun _ _ => False) := by simp [create, connected]
  have answered : wp (getActiveCount env) w (fun _ _ => Listed (env.sdk w.tick listingRequest))
      (fun _ _ => ¬ Listed (env.sdk w.tick listingRequest)) := by
    simp only [getActiveCount, listVms, novaCall, wp_bind, wp_modify, wp_pure]
    refine wp_mono there ?_ (fun _ _ never => never.elim)
    rintro _ _ rfl
    refine wp_mono (callWithTimeout_spec listingRequest lifecycleTimeout) ?_ ?_
    · rintro reply t ⟨_, _, _, early, result⟩
      cases details : comprehend serializeVm reply with
      | ok details' => exact ⟨early, reply, details', result, details⟩
      | error exc =>
        rintro ⟨_, other, details', result', serialized⟩
        cases result.symm.trans result'
        rw [details] at serialized
        contradiction
    · rintro exc t ⟨_, _, _, failed⟩ ⟨early, reply, _, result, _⟩
      obtain late | raised := failed
      · omega
      · rw [result] at raised
        contradiction
  exact wp_and answered (getActiveCount_frames (unaccounted_silent env) trivial w)

theorem deleteVm_split : deleteVm env serverId = (do
    let t0 ← monotonic
    tryCatch (do deletion env serverId; concludeDeletion env serverId t0) (fail env serverId "delete")) := by
  simp only [deleteVm, deletion, concludeDeletion, bind_assoc]

/- The world with the success counted. -/
def World.countDeletion (w : World) : World :=
  { w with metrics := { w.metrics with
      lifecycleOperations := w.metrics.lifecycleOperations ++ [("delete", "success")] } }

theorem concludeDeletion_accounted (t0 : Nat) {w : World} (connected : w.connected = true) :
    wp (concludeDeletion env serverId t0) w
      (fun _ t => Listed (env.sdk w.tick listingRequest) ∧ Accounted serverId "delete" "success" w t)
      (fun _ t => ¬ Listed (env.sdk w.tick listingRequest) ∧ unaccounted.rel w.countDeletion t) := by
  simp only [concludeDeletion, monotonic, wp_bind, wp_get, wp_pure, wp_modify]
  refine wp_mono (getActiveCount_listed (w := w.countDeletion) connected) ?_ (fun _ _ raised => raised)
  rintro _ t ⟨listed, counters, audits⟩
  refine wp_mono (audit_written "delete" "success" [] t) ?_ (fun _ _ never => never.elim)
  rintro _ u ⟨_, metrics, entry⟩
  have same : t.audits = w.audits := audits
  rw [same] at entry
  exact ⟨listed, by rw [metrics, counters]; rfl, entry⟩

/-- A deletion that is counted as a success and raises is counted twice. -/
theorem countDeletion_twice {s t : World} {exc : Exc} {α : Type} (before : unaccounted.rel s t) (u : World)
    (counted : unaccounted.rel t.countDeletion u) :
    wp (fail env serverId "delete" exc : M α) u (fun _ _ => False)
      (fun _ v => ¬ Accounted serverId "delete" "failed" s v) := by
  refine wp_mono (fail_accounted "delete" exc u) (fun _ _ never => never.elim) ?_
  rintro _ v ⟨counters, _⟩ ⟨claimed, _⟩
  have lengths := congrArg List.length (counters.symm.trans claimed)
  rw [counted.1, World.countDeletion, before.1] at lengths
  simp at lengths

theorem deleteVm_accounted_iff (w : World) :
    wp (deleteVm env serverId) w
      (fun _ t => Accounted serverId "delete" "success" w t) (fun _ t => Accounted serverId "delete" "failed" w t) ↔
    ∀ u, deletion env serverId w = .ok () u → Listed (env.sdk u.tick listingRequest) := by
  rw [deleteVm_split, wp_bind]
  change wp (tryCatch _ (fail env serverId "delete")) w _ _ ↔ _
  rw [wp_tryCatch, wp_bind]
  have same := @deletion_frames env serverId unaccounted (unaccounted_silent env) w
  cases run : deletion env serverId w with
  | error exc t =>
    have before := wp_of_error same run
    rw [wp_iff_of_error run]
    constructor
    · intro _ u other
      contradiction
    · intro _
      refine wp_mono (fail_accounted "delete" exc t) (fun _ _ never => never.elim) ?_
      intro _ u accounted
      exact accounted.after before
  | ok done t =>
    have before := wp_of_ok same run
    have connected := wp_of_ok (deletion_connected w) run
    have concluded := @concludeDeletion_accounted env serverId w.now t connected
    rw [wp_iff_of_ok run]
    constructor
    · rintro accounted u ⟨⟩
      by_contra unlisted
      have both := wp_and accounted concluded
      refine wp_absurd (wp_mono both ?_ ?_)
      · rintro _ v ⟨_, listed, _⟩
        exact unlisted listed
      · rintro exc v ⟨once, _, counted⟩
        exact wp_absurd (wp_mono (wp_and once (countDeletion_twice before v counted)) (fun _ _ h => h.2)
          (fun _ _ h => h.2 h.1))
    · intro every
      have listed := every t rfl
      refine wp_mono concluded ?_ ?_
      · rintro _ v ⟨_, accounted⟩
        exact accounted.after before
      · rintro exc v ⟨unlisted, _⟩
        exact absurd listed unlisted

end Accounts

/-- A lifecycle call is accounted for exactly once, unless it is a deletion that Nova has
gone through with and whose refresh of the gauge fails. -/
theorem accounted_once_iff (env : Env) (serverId : String) (operation : Operation) (w : World) :
    AccountedOnce env serverId operation w ↔
      (operation = .delete → ∀ u, deletion env serverId w = .ok () u → Listed (env.sdk u.tick listingRequest)) := by
  cases operation with
  | start => exact ⟨fun _ other => (nomatch other), fun _ => lifecycleOperation_accounted "start" w⟩
  | stop => exact ⟨fun _ other => (nomatch other), fun _ => lifecycleOperation_accounted "stop" w⟩
  | reboot => exact ⟨fun _ other => (nomatch other), fun _ => lifecycleOperation_accounted "reboot" w⟩
  | delete =>
    have deleted := @deleteVm_accounted_iff env serverId w
    exact ⟨fun accounted _ => deleted.mp accounted, fun listed => deleted.mpr (listed rfl)⟩

def webServer (status : String) : Val :=
  .dict [("id", .str "srv-1"), ("name", .str "web01"), ("status", .str status)]

/- A Nova that deletes the server and then fails to list the rest. -/
def novaWithoutListing : Env where
  ready := true
  listLimit := 1000
  connect _ := none
  sdk n request :=
    if request.operation = "servers" then { result := .error (.foreign "HttpException" "502: Bad Gateway") }
    else if n ≤ 1 then { result := .ok ⟨webServer "ACTIVE", none⟩ }
    else { result := .ok ⟨.none, none⟩ }
  wall _ := 0
  lag _ := 0
  redisUp _ := true
  databaseUp _ := true
  uuid _ := "uuid"

theorem deletion_counted_twice :
    ¬ ∀ env serverId operation w, AccountedOnce env serverId operation w := by
  intro claim
  have gone : wp (deletion novaWithoutListing "srv-1") .initial (fun _ _ => True) (fun _ _ => False) := by
    decide +kernel
  cases run : deletion novaWithoutListing "srv-1" .initial with
  | error exc u => exact (wp_of_error gone run).elim
  | ok done u =>
    have listed := deleteVm_accounted_iff World.initial |>.mp (claim novaWithoutListing "srv-1" .delete .initial)
    obtain ⟨_, reply, _, result, _⟩ := listed u run
    contradiction

end VMachine.OpenStack
