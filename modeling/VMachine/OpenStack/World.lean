import VMachine.Batch.Producers
import VMachine.Cache.Backend
import VMachine.Lib.Effects
import VMachine.Lib.Pydantic

/-! The ground the OpenStack services stand on: exceptions, requests to the SDK, the state
that the process can see and change, and the connection factory with its two ways of
issuing a request. Whatever the process does not decide is asked of an environment, which
may answer every question as it likes. -/
namespace VMachine.OpenStack
open Py Effects

inductive Exc where
  | appException (message : String) (statusCode : Nat) (errorCode : String)
  | openStackIntegrationException (message : String)
  | timeoutError (message : String)
  | attributeError (owner name : String)
  | typeError (message : String)
  | validationError (model : String) (fields : List String)
  | foreign (type message : String)
  deriving Repr, DecidableEq

/- `type(exc).__name__`. -/
def Exc.type : Exc → String
  | .appException _ _ _ => "AppException"
  | .openStackIntegrationException _ => "OpenStackIntegrationException"
  | .timeoutError _ => "TimeoutError"
  | .attributeError _ _ => "AttributeError"
  | .typeError _ => "TypeError"
  | .validationError _ _ => "ValidationError"
  | .foreign type _ => type

/- `str(exc)`. Of a ValidationError, its first line and the fields it lists. -/
def Exc.message : Exc → String
  | .appException message _ _ => message
  | .openStackIntegrationException message => message
  | .timeoutError message => message
  | .attributeError owner name => "'" ++ owner ++ "' object has no attribute '" ++ name ++ "'"
  | .typeError message => message
  | .validationError model fields =>
    toString fields.length ++ (if fields.length = 1 then " validation error for " else " validation errors for ")
      ++ model ++ "\n" ++ "\n".intercalate fields
  | .foreign _ message => message

/- `exc.status_code`, which only an AppException has. -/
def Exc.statusCode : Exc → Option Nat
  | .appException _ statusCode _ => some statusCode
  | .openStackIntegrationException _ => some 502
  | _ => none

structure SdkCall where
  service : String
  operation : String
  args : List Val := []
  kwargs : List (String × Val) := []
  deriving Repr

/- What the SDK returns. A generator is a list, with the exception that iterating over it
raises in the end, if any. -/
structure Reply where
  value : Val
  fault : Option Exc := none

/- What becomes of a request, whether anybody waits for it or not: how it ends, how long it
takes, and the servers that Nova creates for it. -/
structure Outcome where
  result : Except Exc Reply
  took : Nat := 0
  created : List String := []

inductive TaskState where
  | queued
  | running
  | succeeded
  | failed
  deriving Repr, DecidableEq

/- A row of the table operation_tasks. Its key is its position in the table. -/
structure OperationTask where
  operationType : String
  targetType : String
  targetId : Val
  state : TaskState
  errorMessage : Option String
  finishedAt : Option Nat
  deriving Repr

/- An element of a list response: a model, or the dictionary that Redis returns for one. -/
inductive Item where
  | model (o : Obj)
  | plain (attrs : List (String × Val))
  deriving Repr

/- A list response, with the number of requests that had been issued before its own. -/
structure Listing where
  items : List Item
  fetchedAt : Nat
  deriving Repr

def Item.dump : Item → Item
  | .model o => .plain o.attrs
  | .plain attrs => .plain attrs

def Listing.json (l : Listing) : Listing := { l with items := l.items.map Item.dump }

/- The metrics of the provisioning engine: each increment with its labels, and the gauge. -/
structure Metrics where
  createDuration : List String
  createFailures : List String
  lifecycleOperations : List (String × String)
  activeCount : Int
  deriving Repr

/- A request with what became of it. -/
structure Exchange where
  request : SdkCall
  outcome : Outcome

/- `tick` counts the questions asked of the environment, `log` the requests issued,
`traffic` the same with their outcomes, and `created` the servers that Nova made for them.
`faults` are the lookups that failed: a method that does not exist, a wrong number of
arguments, an undeclared attribute. -/
structure World where
  tick : Nat
  now : Nat
  connected : Bool
  log : List SdkCall
  traffic : List Exchange
  created : List String
  cache : Cache.State Listing
  tasks : List OperationTask
  audits : List Batch.AuditEntry
  metrics : Metrics
  faults : List Exc

/- A process that has just started, with the memory cache configured. -/
def World.initial : World where
  tick := 0
  now := 0
  connected := false
  log := []
  traffic := []
  created := []
  cache := ⟨Cache.defaultTtls, ⟨∅, ∅, ∅⟩, some (Cache.memoryCacheBackend Cache.defaultTtls)⟩
  tasks := []
  audits := []
  metrics := ⟨[], [], [], 0⟩
  faults := []

structure Env where
  ready : Bool
  listLimit : Nat
  connect : Nat → Option Exc
  sdk : Nat → SdkCall → Outcome
  wall : Nat → Nat
  lag : Nat → Nat
  redisUp : Nat → Bool
  databaseUp : Nat → Bool
  uuid : Nat → String

abbrev M := EStateM Exc World

/- The number of the next question. -/
def ask : M Nat := do
  let w ← get
  set { w with tick := w.tick + 1 }
  return w.tick

def monotonic : M Nat := do
  return (← get).now

def elapse (ticks : Nat) : M Unit := modify (fun w => { w with now := w.now + ticks })

def validate (schema : Schema) (kwargs : List (String × Val)) : Except Exc Obj :=
  match schema.construct kwargs with
  | .ok o => .ok o
  | .error fields => .error (.validationError schema.name fields)

/- An attribute of what the SDK returned. -/
def readAttr (v : Val) (name : String) : Except Exc Val :=
  match v.get? name with
  | some a => .ok a
  | none => .error (.attributeError (match v with | .none => "NoneType" | _ => "Resource") name)

/- `[f(x) for x in reply]`: what iterating raises comes after the elements. -/
def comprehend {β : Type} (f : Val → Except Exc β) (reply : Reply) : Except Exc (List β) :=
  match reply.value with
  | .list vs => do
    let items ← vs.mapM f
    match reply.fault with
    | some exc => .error exc
    | none => .ok items
  | _ => .error (.typeError "object is not iterable")

/- `serialize_resource`: the named attributes, None where there is none. -/
def serializeResource (resource : Val) (fields : List String) : List (String × Val) :=
  fields.map (fun field => (field, (resource.get? field).getD .none))

def ofExcept {α : Type} : Except Exc α → M α
  | .ok a => return a
  | .error exc => throw exc

@[simp] theorem wp_ofExcept_ok {α : Type} {w : World} {Q : α → World → Prop} {E : Exc → World → Prop}
    (a : α) : wp (ofExcept (.ok a)) w Q E ↔ Q a w := Iff.rfl

@[simp] theorem wp_ofExcept_error {α : Type} {w : World} {Q : α → World → Prop} {E : Exc → World → Prop}
    (exc : Exc) : wp (ofExcept (.error exc)) w Q E ↔ E exc w := Iff.rfl

theorem valid_of_validate {schema : Schema} {kwargs : List (String × Val)} {o : Obj}
    (built : validate schema kwargs = .ok o) : o.Valid schema := by
  unfold validate at built
  split at built
  · rename_i constructed
    cases built
    exact ⟨kwargs, constructed⟩
  · contradiction

theorem ok_of_bind {α β : Type} {x : Except Exc α} {f : α → Except Exc β} {b : β} (ok : x >>= f = .ok b) :
    ∃ a, x = .ok a ∧ f a = .ok b := by
  cases x with
  | ok a => exact ⟨a, rfl, ok⟩
  | error exc => contradiction

section Factory
variable (env : Env)

/- `OpenStackConnectionFactory.create`. The connection is kept once it is there. -/
def create : M Unit := do
  let w ← get
  if w.connected then return
  else if env.ready then
    match env.connect (← ask) with
    | some exc => throw (.openStackIntegrationException ("Failed to create OpenStack connection: " ++ exc.message))
    | none => modify (fun w => { w with connected := true })
  else
    throw (.appException "OpenStack settings are incomplete. Fill the required OPENSTACK_* environment variables."
      503 "openstack_not_configured")

/- The request leaves the process, and its outcome is settled from here on. -/
def issue (request : SdkCall) : M Outcome := do
  let outcome := env.sdk (← ask) request
  modify (fun w => { w with
    log := w.log ++ [request], traffic := w.traffic ++ [⟨request, outcome⟩]
    created := w.created ++ outcome.created })
  return outcome

/- `OpenStackConnectionFactory.call`, which blocks until the request is through. The SDK
has every service and operation that the services name. -/
def call (service operation : String) (args : List Val) (kwargs : List (String × Val)) : M Reply := do
  create env
  let outcome ← issue env ⟨service, operation, args, kwargs⟩
  elapse outcome.took
  match outcome.result with
  | .ok reply => return reply
  | .error exc =>
    throw (.openStackIntegrationException (service ++ "." ++ operation ++ " failed: " ++ exc.message))

/- `call_with_timeout`: the request runs in a thread and goes on when the limit is over. -/
def callWithTimeout (request : SdkCall) (timeout : Nat) : M Reply := do
  let outcome ← issue env request
  let lag := env.lag (← ask)
  if outcome.took ≤ timeout then
    elapse (outcome.took + lag)
    match outcome.result with
    | .ok reply => return reply
    | .error exc => throw exc
  else
    elapse (timeout + lag)
    throw (.timeoutError "")

def asyncSleep (ticks : Nat) : M Unit := do
  let lag := env.lag (← ask)
  elapse (ticks + lag)

def cacheGet (resource : String) : M (Option Listing) := do
  let n ← ask
  let w ← get
  let (found, cache) := Cache.cacheGet (env.redisUp n) (env.wall n) resource w.cache
  set { w with cache := cache }
  return found

def cacheSet (resource : String) (value : Listing) : M Unit := do
  let n ← ask
  modify (fun w => { w with
    cache := Cache.cacheSet (env.redisUp n) (env.wall n) Listing.json resource value w.cache })

def cacheInvalidate (resource : String) : M Unit := do
  let n ← ask
  modify (fun w => { w with cache := Cache.cacheInvalidate (env.redisUp n) resource w.cache })

def enqueueAuditEntry (entry : Batch.AuditCall) : M Unit := do
  let n ← ask
  match Batch.enqueueAuditEntry { entry with uuid := env.uuid n } with
  | some e => modify (fun w => { w with audits := w.audits ++ [e] })
  | none => return

end Factory

/- A frame that lets the allowed operations be requested, time pass and the gauge be set. -/
structure Silent (env : Env) (allowed : String → Prop) (F : Frame World) : Prop where
  asked : ∀ w, F.rel w { w with tick := w.tick + 1 }
  passed : ∀ w ticks, F.rel w { w with now := w.now + ticks }
  connected : ∀ w, F.rel w { w with connected := true }
  issued : ∀ w n request, allowed request.operation → F.rel w { w with
    log := w.log ++ [request], traffic := w.traffic ++ [⟨request, env.sdk n request⟩]
    created := w.created ++ (env.sdk n request).created }
  gauged : ∀ w count, F.rel w { w with metrics := { w.metrics with activeCount := count } }

/- One that lets audit entries be written and every metric be observed as well. -/
structure Inert (env : Env) (allowed : String → Prop) (F : Frame World) : Prop extends Silent env allowed F where
  gauged w _ := measured w _
  audited : ∀ w audits, F.rel w { w with audits := audits }
  measured : ∀ w metrics, F.rel w { w with metrics := metrics }

section Frames
variable {env : Env} {allowed : String → Prop} {F : Frame World} (silent : Silent env allowed F)

theorem ofExcept_frames {α : Type} (x : Except Exc α) : Frames F (ofExcept x) := by
  cases x with
  | ok a => exact frames_pure a
  | error exc => exact frames_throw exc

theorem ofExcept_bind_frames {α β : Type} {x : Except Exc α} {f : α → M β}
    (rest : ∀ a, x = .ok a → Frames F (f a)) : Frames F (ofExcept x >>= f) := by
  cases x with
  | ok a => exact rest a rfl
  | error exc => exact frames_throw exc

include silent

theorem ask_frames : Frames F ask := fun w => silent.asked w

theorem elapse_frames (ticks : Nat) : Frames F (elapse ticks) := fun w => silent.passed w _

theorem create_frames : Frames F (create env) := by
  refine frames_bind frames_get (fun w => frames_ite _ (frames_pure _) (frames_ite _ ?_ (frames_throw _)))
  refine frames_bind (ask_frames silent) (fun n => ?_)
  split
  · exact frames_throw _
  · exact frames_modify silent.connected

theorem issue_frames {request : SdkCall} (permitted : allowed request.operation) :
    Frames F (issue env request) :=
  frames_bind (ask_frames silent) (fun n =>
    frames_bind (frames_modify (fun w => silent.issued w n request permitted)) (fun _ => frames_pure _))

theorem call_frames (service : String) {operation : String} (args : List Val) (kwargs : List (String × Val))
    (permitted : allowed operation) : Frames F (call env service operation args kwargs) := by
  refine frames_bind (create_frames silent) (fun _ => ?_)
  refine frames_bind (issue_frames silent permitted) (fun outcome => ?_)
  refine frames_bind (elapse_frames silent _) (fun _ => ?_)
  split
  · exact frames_pure _
  · exact frames_throw _

theorem callWithTimeout_frames {request : SdkCall} (timeout : Nat) (permitted : allowed request.operation) :
    Frames F (callWithTimeout env request timeout) := by
  refine frames_bind (issue_frames silent permitted) (fun outcome => frames_bind (ask_frames silent) (fun n => ?_))
  refine frames_ite _ (frames_bind (elapse_frames silent _) (fun _ => ?_))
    (frames_bind (elapse_frames silent _) (fun _ => frames_throw _))
  split
  · exact frames_pure _
  · exact frames_throw _

theorem asyncSleep_frames (ticks : Nat) : Frames F (asyncSleep env ticks) :=
  frames_bind (ask_frames silent) (fun _ => elapse_frames silent _)

omit silent in
theorem enqueueAuditEntry_frames (inert : Inert env allowed F) (entry : Batch.AuditCall) :
    Frames F (enqueueAuditEntry env entry) := by
  refine frames_bind (ask_frames inert.toSilent) (fun n => ?_)
  split
  · exact frames_modify (fun w => inert.audited w _)
  · exact frames_pure _

end Frames

/- Whether the factory has a connection or gets one. -/
def connects (env : Env) (w : World) : Bool :=
  w.connected || (env.ready && (env.connect w.tick).isNone)

/- The world with the connection made. -/
def World.online (w : World) : World :=
  { w with tick := if w.connected then w.tick else w.tick + 1, connected := true }

section Replies
variable {env : Env} {w : World}

theorem create_spec : wp (create env) w
    (fun _ t => connects env w = true ∧ t = w.online)
    (fun _ t => connects env w = false ∧ t.log = w.log ∧ t.created = w.created) := by
  cases connected : w.connected with
  | true =>
    have same : w.online = w := by
      cases w
      cases connected
      rfl
    simp [create, connects, connected, same]
  | false =>
    cases ready : env.ready with
    | false => simp [create, connects, connected, ready]
    | true =>
      cases answer : env.connect w.tick with
      | none => simp [create, ask, connects, connected, ready, answer, World.online]
      | some exc => simp [create, ask, connects, connected, ready, answer]

theorem online_later (w : World) : w.tick ≤ w.online.tick := by
  cases connected : w.connected with
  | true => simp [World.online, connected]
  | false => simp [World.online, connected]

/-- What a call returns is what the SDK answered in the course of it. -/
theorem call_answered (service operation : String) (args : List Val) (kwargs : List (String × Val)) :
    wp (call env service operation args kwargs) w
      (fun reply t => ∃ n, w.tick ≤ n ∧ n < t.tick ∧
        (env.sdk n ⟨service, operation, args, kwargs⟩).result = .ok reply)
      (fun _ _ => True) := by
  rw [call, wp_bind]
  refine wp_mono create_spec ?_ (fun _ _ _ => trivial)
  rintro _ _ ⟨_, rfl⟩
  simp only [issue, elapse, ask, wp_bind, wp_get, wp_set, wp_pure, wp_modify]
  cases result : (env.sdk w.online.tick ⟨service, operation, args, kwargs⟩).result with
  | ok reply => exact ⟨w.online.tick, online_later w, Nat.lt_succ_self _, result⟩
  | error exc => trivial

end Replies

end VMachine.OpenStack
