import VMachine.Api.AuditTrail
import VMachine.Batch.Conservation
import VMachine.Lib.Isolation

/-! `AuditMiddleware` in front of the worker that writes the audit trail. Requests are interleaved
with each other and with the worker in any order; what an entry says is told from the events of
its own request. -/
namespace VMachine.Api
open Paths Runs
open Batch (AuditCall AuditEntry Item auditFlushWorker enqueueAuditEntry makeEntry)

/- What the middleware reads of a scope. A missing key is none, and missing headers are empty. -/
structure Scope where
  type : String
  method : Option String := none
  path : Option String := none
  headers : List (List UInt8 × List UInt8) := []

section Reading
variable (decode : List UInt8 → String)

/- `_extract_request_id`, with what `bytes.decode("utf-8", errors="replace")` gives. -/
def extractRequestId : List (List UInt8 × List UInt8) → Option String
  | [] => none
  | (rawKey, rawValue) :: headers =>
    if (decode rawKey).toLower = "x-request-id" then some (decode rawValue) else extractRequestId headers

/- The parts that are not the prefix of the interface, wherever they stand. -/
def outsidePrefix (part : String) : Bool := decide (part ∉ ["api", "v1"])

/- `_infer_resource_type`. -/
def inferResourceType (path : String) : String :=
  match (split path).filter outsidePrefix with
  | [] => "unknown"
  | part :: _ => if part = "health" then "system" else part

def methodMap : List (String × String) :=
  [("GET", "read"), ("POST", "create"), ("PUT", "update"), ("PATCH", "update"), ("DELETE", "delete")]

/- `_infer_action`. -/
def inferAction (method path : String) : String :=
  if method = "POST" ∧ 3 ≤ (split path).length ∧ (split path).getLast? = some "actions" then "action"
  else (methodMap.lookup method.toUpper).getD method.toLower

def auditStatus (statusCode : Int) : String := if statusCode ≠ 0 ∧ statusCode < 400 then "success" else "failure"

/- The call of `enqueue_audit_entry` at the end of a request. -/
def auditCall (uuid : String) (scope : Scope) (statusCode : Int) : AuditCall :=
  let path := scope.path.getD "UNKNOWN"
  { uuid := uuid
    action := some (inferAction (scope.method.getD "UNKNOWN") path ++ "_" ++ inferResourceType path)
    resourceType := some (inferResourceType path)
    resourceId := inferResourceId path
    status := auditStatus statusCode
    requestId := extractRequestId decode scope.headers }

end Reading

/- Where the call of the middleware is; `status_code` is what `send_wrapper` has seen. -/
inductive Phase where
  | before
  | running (statusCode : Int)
  | ended
  deriving DecidableEq, Repr

/- The app behind the middleware is called, sends an event, and returns or raises. -/
inductive CallEvent where
  | called
  | sent (type : Option String) (status : Option Int)
  | returned
  | raised
  deriving DecidableEq, Repr

inductive Event (ι : Type) where
  | request (i : ι) (e : CallEvent)
  | worker (e : Batch.Event AuditCall)

structure Middleware (ι : Type) where
  calls : ι → Phase
  worker : Batch.State AuditEntry

def Middleware.initial {ι : Type} : Middleware ι := ⟨fun _ => .before, .initial⟩

/- `status_code` after an event. -/
def seen (statusCode : Int) : CallEvent → Int
  | .sent type status => if type = some "http.response.start" then status.getD 0 else statusCode
  | .raised => 500
  | _ => statusCode

section Steps
variable {ι : Type} [DecidableEq ι] (decode : List UInt8 → String) (uuid : ι → String) (scope : ι → Scope)

/- The entry of a request, if it is one that is audited. -/
def Middleware.audit (s : Middleware ι) (i : ι) (statusCode : Int) : Batch.State AuditEntry :=
  if (scope i).type = "http" then Batch.put auditFlushWorker s.worker (auditCall decode (uuid i) (scope i) statusCode)
  else s.worker

def Middleware.step (s : Middleware ι) : Event ι → Option (Middleware ι)
  | .request i e =>
    match s.calls i, e with
    | .before, .called => some { s with calls := Function.update s.calls i (.running 0) }
    | .running code, .sent type status =>
      some { s with calls := Function.update s.calls i (.running (seen code (.sent type status))) }
    | .running code, .returned | .running code, .raised =>
      some ⟨Function.update s.calls i .ended, s.audit decode uuid scope i (seen code e)⟩
    | _, _ => none
  | .worker e => (Batch.step auditFlushWorker s.worker e).map (fun worker => { s with worker := worker })

/- The events of one request. -/
def ownCalls (i : ι) (es : List (Event ι)) : List CallEvent :=
  es.filterMap (fun e => match e with
    | .request j e => if j = i then some e else none
    | .worker _ => none)

def CallEvent.ends : CallEvent → Bool
  | .returned | .raised => true
  | _ => false

def CallEvent.status : CallEvent → Option Int
  | .sent type status => if type = some "http.response.start" then some (status.getD 0) else none
  | _ => none

/- The last status that the request was answered with, or none. -/
def lastStatus (es : List CallEvent) : Option Int := (es.filterMap CallEvent.status).getLast?

/- The status of a request that has ended, told from its events. -/
def outcome (es : List CallEvent) : Int :=
  if .raised ∈ es then 500 else (lastStatus es).getD 0

/- The requests that have ended and are audited, in the order in which they ended. -/
def endedRequests (es : List (Event ι)) : List ι :=
  es.filterMap (fun e => match e with
    | .request i e => if e.ends = true ∧ (scope i).type = "http" then some i else none
    | .worker _ => none)

/- What an event of a run puts on the trail. -/
def trailed (all : List (Event ι)) : Event ι → List AuditEntry
  | .request i e =>
    if e.ends = true ∧ (scope i).type = "http" then
      [makeEntry (auditCall decode (uuid i) (scope i) (outcome (ownCalls i all)))]
    else []
  | .worker e => e.entries auditFlushWorker

end Steps

section Trail
variable {ι : Type} [DecidableEq ι] {decode : List UInt8 → String} {uuid : ι → String} {scope : ι → Scope}
  {s t : Middleware ι} {es : List (Event ι)}

theorem ownCalls_own (i : ι) (es : List (Event ι)) (e : CallEvent) :
    ownCalls i (es ++ [.request i e]) = ownCalls i es ++ [e] := by
  simp [ownCalls]

theorem ownCalls_other {i j : ι} (other : j ≠ i) (es : List (Event ι)) (e : CallEvent) :
    ownCalls j (es ++ [.request i e]) = ownCalls j es := by
  simp [ownCalls, other.symm]

theorem ownCalls_worker (i : ι) (es : List (Event ι)) (e : Batch.Event AuditCall) :
    ownCalls i (es ++ [.worker e]) = ownCalls i es := by
  simp [ownCalls]

omit [DecidableEq ι] in
theorem mem_endedRequests {i : ι} : i ∈ endedRequests scope es ↔
    ∃ e, e.ends = true ∧ (scope i).type = "http" ∧ .request i e ∈ es := by
  unfold endedRequests
  rw [List.mem_filterMap]
  constructor
  · rintro ⟨event, member, found⟩
    cases event with
    | worker e => contradiction
    | request j e =>
      obtain ⟨⟨ends, audited⟩, same⟩ := Option.ite_none_right_eq_some.mp found
      cases same
      exact ⟨e, ends, audited, member⟩
  · rintro ⟨e, ends, audited, member⟩
    exact ⟨.request i e, member, if_pos ⟨ends, audited⟩⟩

omit [DecidableEq ι] in
theorem endedRequests_concat (es : List (Event ι)) (i : ι) (e : CallEvent) :
    endedRequests scope (es ++ [.request i e]) =
      endedRequests scope es ++ (if e.ends = true ∧ (scope i).type = "http" then [i] else []) := by
  unfold endedRequests
  rw [List.filterMap_append]
  congr 1
  simp only [List.filterMap_cons, List.filterMap_nil]
  split <;> rename_i found
  · split at found
    · contradiction
    · rename_i none
      rw [if_neg none]
  · split at found
    · rename_i both
      rw [if_pos both, Option.some.inj found]
    · contradiction

omit [DecidableEq ι] in
theorem endedRequests_worker (es : List (Event ι)) (e : Batch.Event AuditCall) :
    endedRequests scope (es ++ [.worker e]) = endedRequests scope es := by
  simp [endedRequests]

/-- What is on the trail stays as it is while no ended request has further events. -/
theorem trail_congr {all later : List (Event ι)}
    (same : ∀ i ∈ endedRequests scope es, ownCalls i later = ownCalls i all) :
    es.flatMap (trailed decode uuid scope later) = es.flatMap (trailed decode uuid scope all) := by
  refine List.flatMap_congr (fun event member => ?_)
  cases event with
  | worker e => rfl
  | request i e =>
    simp only [trailed]
    split
    · rename_i ended
      rw [same i (mem_endedRequests.mpr ⟨e, ended.1, ended.2, member⟩)]
    · rfl

/- What the state of a run is, told from its events. -/
structure Told (decode : List UInt8 → String) (uuid : ι → String) (scope : ι → Scope) (es : List (Event ι))
    (s : Middleware ι) : Prop where
  fresh : ∀ i, s.calls i = .before → ownCalls i es = []
  going : ∀ i code, s.calls i = .running code → .raised ∉ ownCalls i es ∧ code = (lastStatus (ownCalls i es)).getD 0
  closed : ∀ i, i ∈ endedRequests scope es ↔ s.calls i = .ended ∧ (scope i).type = "http"
  once : (endedRequests scope es).Nodup
  trail : s.worker.enqueued.map Item.entry = es.flatMap (trailed decode uuid scope es)

theorem told_initial : Told decode uuid scope [] (Middleware.initial : Middleware ι) where
  fresh := fun _ _ => rfl
  going := by
    intro i code running
    contradiction
  closed := fun i => iff_of_false List.not_mem_nil (fun ended => nomatch ended.1)
  once := List.nodup_nil
  trail := rfl

/-- How a request can take a step. -/
theorem step_request {i : ι} {e : CallEvent} (next : s.step decode uuid scope (.request i e) = some t) :
    (s.calls i = .before ∧ e = .called ∧ t = { s with calls := Function.update s.calls i (.running 0) }) ∨
    (∃ code type status, s.calls i = .running code ∧ e = .sent type status ∧
      t = { s with calls := Function.update s.calls i (.running (seen code e)) }) ∨
    ∃ code, s.calls i = .running code ∧ e.ends = true ∧
      t = ⟨Function.update s.calls i .ended, s.audit decode uuid scope i (seen code e)⟩ := by
  simp only [Middleware.step] at next
  split at next
  · rename_i here
    exact .inl ⟨here, rfl, (Option.some.inj next).symm⟩
  · rename_i code type status here
    exact .inr (.inl ⟨code, type, status, here, rfl, (Option.some.inj next).symm⟩)
  · rename_i code here
    exact .inr (.inr ⟨code, here, rfl, (Option.some.inj next).symm⟩)
  · rename_i code here
    exact .inr (.inr ⟨code, here, rfl, (Option.some.inj next).symm⟩)
  · contradiction

/-- What `send_wrapper` has seen is the last status that was sent. -/
theorem lastStatus_sent (es : List CallEvent) (type : Option String) (status : Option Int) :
    (lastStatus (es ++ [.sent type status])).getD 0 = seen ((lastStatus es).getD 0) (.sent type status) := by
  unfold lastStatus
  rw [List.filterMap_append]
  by_cases start : type = some "http.response.start"
  · simp [CallEvent.status, seen, start]
  · simp [CallEvent.status, seen, start]

/-- The status at the end is what the events of the request say. -/
theorem seen_outcome {es : List CallEvent} {e : CallEvent} (ends : e.ends = true) (quiet : .raised ∉ es) :
    seen ((lastStatus es).getD 0) e = outcome (es ++ [e]) := by
  unfold outcome
  cases e with
  | returned => simp [quiet, seen, lastStatus, CallEvent.status]
  | raised => simp [seen]
  | called => contradiction
  | sent type status => contradiction

/-- An entry of the middleware is never without an action, and so never dropped. -/
theorem not_dropped (decode : List UInt8 → String) (uuid : String) (scope : Scope) (code : Int) :
    enqueueAuditEntry (auditCall decode uuid scope code) = some (makeEntry (auditCall decode uuid scope code)) := by
  unfold enqueueAuditEntry
  simp [auditCall, String.append_eq_empty_iff]

omit [DecidableEq ι] in
theorem audit_entries (s : Middleware ι) (i : ι) (code : Int) :
    (s.audit decode uuid scope i code).enqueued.map Item.entry = s.worker.enqueued.map Item.entry ++
      (if (scope i).type = "http" then [makeEntry (auditCall decode (uuid i) (scope i) code)] else []) := by
  unfold Middleware.audit
  split
  · have put := @Batch.step_entries _ _ auditFlushWorker s.worker _ (.call (auditCall decode (uuid i) (scope i) code)) rfl
    simpa [Batch.Event.entries, auditFlushWorker, not_dropped] using put
  · rw [List.append_nil]

/-- The phases of the requests after an event of one of them, told from the events. -/
theorem Told.phases {i : ι} {e : CallEvent} {phase : Phase} (told : Told decode uuid scope es s) (late : phase ≠ .before)
    (tells : ∀ code, phase = .running code →
      .raised ∉ ownCalls i es ++ [e] ∧ code = (lastStatus (ownCalls i es ++ [e])).getD 0) :
    (∀ j, Function.update s.calls i phase j = .before → ownCalls j (es ++ [.request i e]) = []) ∧
    ∀ j code, Function.update s.calls i phase j = .running code →
      .raised ∉ ownCalls j (es ++ [.request i e]) ∧ code = (lastStatus (ownCalls j (es ++ [.request i e]))).getD 0 := by
  constructor
  · intro j before
    obtain rfl | other := eq_or_ne j i
    · exact absurd ((Function.update_self ..).symm.trans before) late
    · rw [ownCalls_other other]
      exact told.fresh j ((Function.update_of_ne other ..).symm.trans before)
  · intro j code running
    obtain rfl | other := eq_or_ne j i
    · rw [ownCalls_own]
      exact tells code ((Function.update_self ..).symm.trans running)
    · rw [ownCalls_other other]
      exact told.going j code ((Function.update_of_ne other ..).symm.trans running)

/-- A request that has not ended is none of those that have. -/
theorem Told.unended {i : ι} (told : Told decode uuid scope es s) (unended : s.calls i ≠ .ended) :
    ∀ j ∈ endedRequests scope es, j ≠ i := by
  rintro j ended rfl
  exact unended ((told.closed j).mp ended).1

/-- A request that goes on, without an end. -/
theorem Told.goes_on {i : ι} {e : CallEvent} {phase : Phase} (told : Told decode uuid scope es s)
    (before : s.calls i ≠ .ended) (unclosed : e.ends = false) (late : phase ≠ .before) (after : phase ≠ .ended)
    (tells : ∀ code, phase = .running code →
      .raised ∉ ownCalls i es ++ [e] ∧ code = (lastStatus (ownCalls i es ++ [e])).getD 0) :
    Told decode uuid scope (es ++ [.request i e]) { s with calls := Function.update s.calls i phase } := by
  have apart := told.unended before
  have same : endedRequests scope (es ++ [.request i e]) = endedRequests scope es := by
    simp [endedRequests_concat, unclosed]
  obtain ⟨fresh, going⟩ := told.phases late tells
  refine ⟨fresh, going, ?_, same ▸ told.once, ?_⟩
  · intro j
    rw [same]
    obtain rfl | other := eq_or_ne j i
    · refine iff_of_false (fun ended => apart j ended rfl) (fun ended => ?_)
      exact after ((Function.update_self ..).symm.trans ended.1)
    · change _ ↔ Function.update s.calls i phase j = .ended ∧ _
      rw [Function.update_of_ne other]
      exact told.closed j
  · rw [List.flatMap_append, trail_congr (fun j ended => ownCalls_other (apart j ended) es e)]
    simp [trailed, unclosed, told.trail]

/-- A request that ends, with its entry put on the trail. -/
theorem Told.ends {i : ι} {e : CallEvent} {code : Int} (told : Told decode uuid scope es s)
    (here : s.calls i = .running code) (ends : e.ends = true) :
    Told decode uuid scope (es ++ [.request i e])
      ⟨Function.update s.calls i .ended, s.audit decode uuid scope i (seen code e)⟩ := by
  obtain ⟨quiet, answered⟩ := told.going i code here
  have apart := told.unended (i := i) (by simp [here])
  obtain ⟨fresh, going⟩ := @Told.phases _ _ _ _ _ _ _ i e .ended told (by simp) (by simp)
  refine ⟨fresh, going, ?_, ?_, ?_⟩
  · intro j
    rw [endedRequests_concat, List.mem_append]
    change _ ↔ Function.update s.calls i .ended j = .ended ∧ _
    obtain rfl | other := eq_or_ne j i
    · rw [Function.update_self]
      simp only [ends, true_and]
      refine or_iff_right (fun ended => apart j ended rfl) |>.trans ?_
      split <;> simp_all
    · rw [Function.update_of_ne other]
      refine (or_iff_left (fun new => ?_)).trans (told.closed j)
      split at new
      · exact other (List.mem_singleton.mp new)
      · contradiction
  · rw [endedRequests_concat]
    split
    · exact told.once.append (List.nodup_singleton i) (List.disjoint_singleton.mpr (fun ended => apart i ended rfl))
    · rw [List.append_nil]
      exact told.once
  · rw [audit_entries, told.trail, List.flatMap_append,
      trail_congr (fun j ended => ownCalls_other (apart j ended) es e), answered, seen_outcome ends quiet]
    simp [trailed, ends, ownCalls_own]

theorem step_told {event : Event ι} (told : Told decode uuid scope es s)
    (next : s.step decode uuid scope event = some t) : Told decode uuid scope (es ++ [event]) t := by
  cases event with
  | worker e =>
    obtain ⟨worker, moved, rfl⟩ := Option.map_eq_some_iff.mp next
    refine ⟨?_, ?_, ?_, ?_, ?_⟩
    · intro i before
      rw [ownCalls_worker]
      exact told.fresh i before
    · intro i code running
      rw [ownCalls_worker]
      exact told.going i code running
    · rw [endedRequests_worker]
      exact told.closed
    · rw [endedRequests_worker]
      exact told.once
    · rw [List.flatMap_append, trail_congr (fun i _ => ownCalls_worker i es e), Batch.step_entries moved, told.trail]
      simp [trailed]
  | request i e =>
    obtain ⟨here, rfl, rfl⟩ | ⟨code, type, status, here, rfl, rfl⟩ | ⟨code, here, ends, rfl⟩ := step_request next
    · refine told.goes_on (by simp [here]) rfl (by simp) (by simp) ?_
      rintro code ⟨⟩
      rw [told.fresh i here]
      exact ⟨by simp, rfl⟩
    · refine told.goes_on (by simp [here]) rfl (by simp) (by simp) ?_
      rintro later ⟨⟩
      obtain ⟨quiet, answered⟩ := told.going i code here
      refine ⟨by simp [quiet], ?_⟩
      rw [lastStatus_sent, ← answered]
    · exact told.ends here ends

theorem run_told (run : exec (Middleware.step decode uuid scope) .initial es = some s) : Told decode uuid scope es s :=
  Runs.history _ (I := fun es s => Told decode uuid scope es s) (fun _ _ _ _ told next => step_told told next)
    told_initial run

theorem step_worker_accounted {event : Event ι} (accounted : Batch.Accounted s.worker)
    (orderly : ∀ e, event = .worker e → e.orderly = true) (next : s.step decode uuid scope event = some t) :
    Batch.Accounted t.worker := by
  cases event with
  | worker e =>
    obtain ⟨worker, moved, rfl⟩ := Option.map_eq_some_iff.mp next
    exact Batch.step_accounted accounted (Batch.orderly_keeps (orderly e rfl) _) moved
  | request i e =>
    obtain ⟨_, _, rfl⟩ | ⟨_, _, _, _, _, rfl⟩ | ⟨code, _, _, rfl⟩ := step_request next
    · exact accounted
    · exact accounted
    · change Batch.Accounted (s.audit decode uuid scope i (seen code e))
      unfold Middleware.audit
      split
      · exact @Batch.step_accounted _ _ auditFlushWorker s.worker _ (.call _) accounted trivial rfl
      · exact accounted

theorem success_iff (uuid : String) (scope : Scope) (es : List CallEvent) :
    (makeEntry (auditCall decode uuid scope (outcome es))).status = "success" ↔
      .raised ∉ es ∧ ∃ status, lastStatus es = some status ∧ status ≠ 0 ∧ status < 400 := by
  change auditStatus (outcome es) = "success" ↔ _
  unfold auditStatus outcome
  by_cases raised : .raised ∈ es
  · simp [raised]
  · cases lastStatus es with
    | none => simp [raised]
    | some status => simp [raised]

/-- However requests are interleaved with each other and with the worker, as long as every flush
succeeds the table, the batch and the queue have in order what was put on the trail: one entry for
each request that has ended, when it ended, and what the engine has put. The entry of a request says
that it was a success exactly if nothing was raised and the last status was neither 0 nor an error. -/
theorem every_request_audited_once (run : exec (Middleware.step decode uuid scope) .initial es = some s)
    (orderly : ∀ e, .worker e ∈ es → e.orderly = true) :
    (s.worker.persisted ++ s.worker.batch ++ s.worker.waiting).map Item.entry =
      es.flatMap (trailed decode uuid scope es) ∧
    (endedRequests scope es).Nodup ∧
    (∀ i, i ∈ endedRequests scope es ↔ s.calls i = .ended ∧ (scope i).type = "http") ∧
    ∀ i ∈ endedRequests scope es, ∃ item ∈ s.worker.enqueued, item.entry.id = uuid i ∧
      (item.entry.status = "success" ↔ .raised ∉ ownCalls i es ∧
        ∃ status, lastStatus (ownCalls i es) = some status ∧ status ≠ 0 ∧ status < 400) := by
  have told := run_told run
  have along : Along (Middleware.step decode uuid scope)
      (fun _ event => ∀ e, event = .worker e → e.orderly = true) (.initial : Middleware ι) es :=
    along_of_forall _ (fun event member e same => orderly e (same ▸ member))
  have empty : Batch.Accounted (Middleware.initial : Middleware ι).worker := rfl
  have accounted : Batch.Accounted s.worker :=
    invariant_along (I := fun s : Middleware ι => Batch.Accounted s.worker) _
      (fun _ _ _ ok orderly next => step_worker_accounted ok orderly next) empty along run
  refine ⟨?_, told.once, told.closed, ?_⟩
  · rw [accounted, told.trail]
  · intro i ended
    obtain ⟨e, ends, audited, member⟩ := mem_endedRequests.mp ended
    have entry : makeEntry (auditCall decode (uuid i) (scope i) (outcome (ownCalls i es))) ∈
        s.worker.enqueued.map Item.entry := by
      rw [told.trail, List.mem_flatMap]
      exact ⟨_, member, by simp [trailed, ends, audited]⟩
    obtain ⟨item, there, same⟩ := List.mem_map.mp entry
    exact ⟨item, there, by rw [same]; rfl, by rw [same]; exact success_iff _ _ _⟩

end Trail

/- A listing that is answered, and an action whose app raises. -/
def twoScopes : Bool → Scope
  | false => { type := "http", method := some "POST", path := some "/api/v1/compute/servers/srv-1/actions" }
  | true => { type := "http", method := some "GET", path := some "/api/v1/flavors" }

/- Bytes of ASCII. -/
def ascii (bytes : List UInt8) : String := String.ofList (bytes.map (fun byte => Char.ofNat byte.toNat))

def twoIds : Bool → String
  | false => "a"
  | true => "b"

def crossing : List (Event Bool) :=
  [.request false .called, .request true .called, .request true (.sent (some "http.response.start") (some 200)),
    .request false .raised, .worker .get, .request true .returned, .worker .timeout, .worker .flushed]

theorem crossing_audited : ∃ s, exec (Middleware.step ascii twoIds twoScopes) .initial crossing = some s ∧
    ((s.worker.persisted ++ s.worker.batch ++ s.worker.waiting).map Item.entry).map
      (fun entry => (entry.id, entry.action, entry.status)) =
        [("a", some "action_compute", "failure"), ("b", some "read_flavors", "success")] := by
  have runs : (exec (Middleware.step ascii twoIds twoScopes) .initial crossing).isSome = true := by decide +kernel
  obtain ⟨s, run⟩ := Option.isSome_iff_exists.mp runs
  have orderly : ∀ e, .worker e ∈ crossing → e.orderly = true := by
    intro e member
    simp only [crossing, List.mem_cons, Event.worker.injEq, reduceCtorEq, List.not_mem_nil, false_or, or_false] at member
    obtain rfl | rfl | rfl := member <;> rfl
  refine ⟨s, run, ?_⟩
  rw [(every_request_audited_once run orderly).1]
  decide +kernel

section Routed
variable {route : List Segment}

def kindOf (word : String) : String := if word = "health" then "system" else word

end Routed

end VMachine.Api
