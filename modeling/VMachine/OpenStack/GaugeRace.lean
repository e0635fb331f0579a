import VMachine.Lib.Parties
import VMachine.Lib.Runs
import VMachine.OpenStack.Engine

/-! The gauge of active VMs under any number of calls of the provisioning engine, with Nova
beside them. A create or a start adds one to the gauge after it has seen its server ACTIVE;
a stop or a delete sets the gauge to the number of ACTIVE servers in a listing. Only calls
that succeed are followed, so a step that would fail is not taken. Nova changes a server
only on behalf of a request that it has accepted. -/
namespace VMachine.OpenStack.Gauge
open Py Effects

/- What Nova is about to do to a server. -/
inductive Task where
  | building
  | starting
  | stopping
  | rebooting
  | deleting
  deriving Repr, DecidableEq

/- A server that is gone has the status DELETED. -/
structure Server where
  status : String
  task : Option Task
  deriving Repr, DecidableEq

inductive Operation where
  | create (request : VMCreateRequest)
  | start
  | stop
  | reboot
  | delete

def Operation.name : Operation → String
  | .create _ => "create"
  | .start => "start"
  | .stop => "stop"
  | .reboot => "reboot"
  | .delete => "delete"

/- Where a call is: made, past the check of the state, accepted by Nova, past the wait, with
its listing answered, or returned. -/
inductive Stage where
  | called
  | checked
  | waiting
  | ready
  | listed (count : Nat)
  | returned
  deriving Repr, DecidableEq

/- The server is its position in Nova's list. That of a create is known from the acceptance on. -/
structure Call where
  operation : Operation
  server : Nat
  stage : Stage

structure State where
  world : World
  servers : List Server
  calls : List Call

inductive Event where
  | call (operation : Operation) (server : Nat)
  | check (i : Nat)
  | request (i : Nat)
  | settle (j : Nat)
  | poll (i : Nat)
  | giveUp (i : Nat)
  | list (i : Nat)
  | finish (i : Nat)

/- Nova's side. -/
section Nova

def serverId (j : Nat) : String := "srv-" ++ toString j

def resource (j : Nat) (v : Server) : Val :=
  .dict [("id", .str (serverId j)), ("name", .str (serverId j)), ("status", .str v.status)]

def Server.present (v : Server) : Bool := decide (v.status ≠ "DELETED")

/- The servers that a listing shows, from the `j`-th on. -/
def shown (j : Nat) : List Server → List Val
  | [] => []
  | v :: servers => if v.present then resource j v :: shown (j + 1) servers else shown (j + 1) servers

def answer (servers : List Server) (j : Nat) (operation : String) : Except Exc Reply :=
  if operation = "servers" then .ok ⟨.list (shown 0 servers), none⟩
  else if operation = "get_server" then
    match servers[j]? with
    | some v => if v.present then .ok ⟨resource j v, none⟩ else .error (.foreign "NotFoundException" "404")
    | none => .error (.foreign "NotFoundException" "404")
  else .ok ⟨.none, none⟩

/- Nova as a call on the `j`-th server meets it. -/
def nova (servers : List Server) (j : Nat) : Env where
  ready := true
  listLimit := 1000
  connect _ := none
  sdk _ request := { result := answer servers j request.operation }
  wall n := n
  lag _ := 0
  redisUp _ := true
  databaseUp _ := true
  uuid n := toString n

/- A request that does not fit the state of the server is refused, but for a deletion. -/
def accept : Operation → Server → Option Server
  | .create _, _ => none
  | .delete, v => some (if v.present then { v with task := some .deleting } else v)
  | operation, v =>
    if v.task = none ∧ v.status ∈ validStateTransitions operation.name then
      match operation with
      | .start => some { v with task := some .starting }
      | .stop => some { v with task := some .stopping }
      | _ => some ⟨"REBOOT", some .rebooting⟩
    else none

def settled : Task → Server
  | .building | .starting | .rebooting => ⟨"ACTIVE", none⟩
  | .stopping => ⟨"SHUTOFF", none⟩
  | .deleting => ⟨"DELETED", none⟩

end Nova

/- The engine's side: the parts of a call between which others may run. -/
section Parts
variable (env : Env)

/- Up to the request. -/
def checkState (operation : Operation) (id : String) : M Unit := do
  let detail ← getVm env id
  ofExcept (validateState (statusOf detail) operation.name)

def send (operation : Operation) (id : String) : M Unit :=
  match operation with
  | .create request => do
    let _ ← novaCall env "create_server" provisioningTimeout [] (createKwargs request)
  | .delete => requestDeletion env id lifecycleTimeout
  | _ => do
    let sdkMethod ← ofExcept (operationToSdk operation.name)
    let _ ← novaCall env sdkMethod lifecycleTimeout [.str id]
      (if operation.name = "reboot" then [("reboot_type", .str "SOFT")] else [])

/- The statuses that end the wait. A delete waits for the server to be gone. -/
def Operation.wanted : Operation → List String
  | .create _ | .start | .reboot => ["ACTIVE"]
  | .stop => ["SHUTOFF", "STOPPED"]
  | .delete => []

def countActive : M Nat := do
  let servers ← listVms env
  return (servers.filter (fun s => statusOf s = "ACTIVE")).length

def setActive (count : Nat) : M Unit :=
  modify (fun w => { w with metrics := { w.metrics with activeCount := count } })

/-- A listing and the write to the gauge are all there is to `get_active_count`. -/
theorem getActiveCount_parts : getActiveCount env = (do
    let active ← countActive env
    setActive active
    return active) := by
  simp only [getActiveCount, countActive, setActive, bind_assoc, pure_bind]

end Parts

namespace State
variable (s : State)

/- A part of a call, run against Nova as it is now. -/
def observe {α : Type} (j : Nat) (part : Env → M α) : Option (α × World) :=
  match part (nova s.servers j) s.world with
  | .ok a w => some (a, w)
  | .error _ _ => none

def move (i : Nat) (call : Call) (stage : Stage) (world : World) : State :=
  { s with calls := s.calls.set i { call with stage := stage }, world := world }

def gauge : Int := s.world.metrics.activeCount

def active : Nat := s.servers.countP (fun v => decide (v.status = "ACTIVE"))

end State

section Steps
variable (s : State) (i : Nat) (call : Call)

def State.check : Option State := do
  let (_, w) ← s.observe call.server (fun env => checkState env call.operation (serverId call.server))
  return s.move i call .checked w

def State.requestCreate : Option State := do
  let (_, w) ← s.observe s.servers.length (fun env => send env call.operation (serverId s.servers.length))
  return { s.move i { call with server := s.servers.length } .waiting w with
    servers := s.servers ++ [⟨"BUILD", some .building⟩] }

def State.requestOn : Option State := do
  let v ← s.servers[call.server]?
  let begun ← accept call.operation v
  let (_, w) ← s.observe call.server (fun env => send env call.operation (serverId call.server))
  return { s.move i call .waiting w with servers := s.servers.set call.server begun }

def State.poll : Option State := do
  let (detail, w) ← s.observe call.server (fun env => getVm env (serverId call.server))
  if statusOf detail ∈ call.operation.wanted then some (s.move i call .ready w) else none

def State.list : Option State := do
  let (count, w) ← s.observe call.server countActive
  return s.move i call (.listed count) w

/- The increment of a create or a start, and the write of a stop or a delete. -/
def State.count : State :=
  s.move i call .returned
    { s.world with metrics := { s.world.metrics with activeCount := s.world.metrics.activeCount + 1 } }

def State.write (count : Nat) : State :=
  s.move i call .returned { s.world with metrics := { s.world.metrics with activeCount := count } }

def State.act (event : Event) : Option State :=
  match event, call.operation, call.stage with
  | .check _, .create _, _ => none
  | .check _, _, .called => s.check i call
  | .request _, .create _, .called => s.requestCreate i call
  | .request _, _, .checked => s.requestOn i call
  | .poll _, _, .waiting => s.poll i call
  | .giveUp _, .delete, .waiting => some (s.move i call .ready s.world)
  | .list _, .stop, .ready | .list _, .delete, .ready => s.list i call
  | .finish _, .create _, .ready | .finish _, .start, .ready => some (s.count i call)
  | .finish _, .reboot, .ready => some (s.move i call .returned s.world)
  | .finish _, .stop, .listed count | .finish _, .delete, .listed count => some (s.write i call count)
  | _, _, _ => none

def State.step (event : Event) : Option State :=
  match event with
  | .call operation server => some { s with calls := s.calls ++ [⟨operation, server, .called⟩] }
  | .settle j =>
    match s.servers[j]? with
    | some ⟨_, some task⟩ => some { s with servers := s.servers.set j (settled task) }
    | _ => none
  | .check i | .request i | .poll i | .giveUp i | .list i | .finish i => do
    let call ← s.calls[i]?
    s.act i call event

end Steps

section Observations
variable {servers : List Server} {j : Nat} {w : World}

theorem novaCall_spec (method : String) (timeout : Nat) (args : List Val) (kwargs : List (String × Val)) :
    wp (novaCall (nova servers j) method timeout args kwargs) w
      (fun reply t => answer servers j method = .ok reply ∧ t.metrics = w.metrics) (fun _ _ => True) := by
  rw [novaCall, wp_bind]
  refine wp_mono create_spec ?_ (fun _ _ _ => trivial)
  rintro _ _ ⟨_, rfl⟩
  simp only [callWithTimeout, issue, elapse, ask, nova, wp_bind, wp_get, wp_set, wp_pure, wp_modify, wp_ite,
    Nat.zero_le, if_true]
  cases result : answer servers j method with
  | ok reply => exact ⟨rfl, rfl⟩
  | error exc => trivial

theorem serializeVm_resource (j : Nat) (v : Server) :
    ∃ detail, serializeVm (resource j v) = .ok detail ∧ statusOf detail = v.status := ⟨_, rfl, rfl⟩

/-- A lookup sees the server as it is. -/
theorem getVm_sees (id : String) : wp (getVm (nova servers j) id) w
    (fun detail t => (∃ v, servers[j]? = some v ∧ statusOf detail = v.status) ∧ t.metrics = w.metrics)
    (fun _ _ => True) := by
  rw [getVm, wp_bind]
  refine wp_mono (novaCall_spec _ _ _ _) ?_ (fun _ _ _ => trivial)
  rintro reply t ⟨answered, metrics⟩
  cases here : servers[j]? with
  | none => simp [answer, here] at answered
  | some v =>
    by_cases present : v.present = true
    · simp only [answer, here, present, if_true, String.reduceEq, if_false, Except.ok.injEq] at answered
      obtain ⟨detail, serialized, status⟩ := serializeVm_resource j v
      rw [← answered]
      simp only [serialized]
      exact ⟨⟨v, rfl, status⟩, metrics⟩
    · simp [answer, here, present] at answered

theorem mapM_shown (j : Nat) (servers : List Server) :
    ∃ details, (shown j servers).mapM serializeVm = .ok details ∧
      (details.filter (fun detail => statusOf detail = "ACTIVE")).length =
        servers.countP (fun v => decide (v.status = "ACTIVE")) := by
  induction servers generalizing j with
  | nil => exact ⟨[], rfl, rfl⟩
  | cons v servers ih =>
    obtain ⟨details, rest, count⟩ := ih (j + 1)
    by_cases present : v.present = true
    · obtain ⟨detail, first, status⟩ := serializeVm_resource j v
      refine ⟨detail :: details, ?_, ?_⟩
      · simp only [shown, present, if_true, List.mapM_cons, first, rest]
        rfl
      · simp only [List.filter_cons, status, List.countP_cons, ← count]
        split <;> rfl
    · refine ⟨details, ?_, ?_⟩
      · simp only [shown, present]
        exact rest
      · have gone : v.status = "DELETED" := by simpa [Server.present] using present
        simp only [List.countP_cons, gone, count]
        rfl

/-- A listing counts the servers that are ACTIVE. -/
theorem countActive_sees : wp (countActive (nova servers j)) w
    (fun count t => count = servers.countP (fun v => decide (v.status = "ACTIVE")) ∧ t.metrics = w.metrics)
    (fun _ _ => True) := by
  rw [countActive, wp_bind, listVms, wp_bind]
  refine wp_mono (novaCall_spec _ _ _ _) ?_ (fun _ _ _ => trivial)
  rintro reply t ⟨answered, metrics⟩
  cases Except.ok.inj answered
  obtain ⟨details, listed, count⟩ := mapM_shown 0 servers
  simp only [comprehend, listed]
  exact ⟨count, metrics⟩

theorem send_unmetered (operation : Operation) (id : String) : wp (send (nova servers j) operation id) w
    (fun _ t => t.metrics = w.metrics) (fun _ _ => True) := by
  have request (method : String) (timeout : Nat) (args : List Val) (kwargs : List (String × Val)) :
      wp (do let _ ← novaCall (nova servers j) method timeout args kwargs) w (fun _ t => t.metrics = w.metrics)
        (fun _ _ => True) := by
    rw [wp_bind]
    exact wp_mono (novaCall_spec _ _ _ _) (fun _ _ sent => sent.2) (fun _ _ _ => trivial)
  cases operation with
  | create payload => exact request _ _ _ _
  | delete => exact request _ _ _ _
  | start => exact request _ _ _ _
  | stop => exact request _ _ _ _
  | reboot => exact request _ _ _ _

end Observations

/- A create or a start that Nova has accepted and the gauge does not show. -/
def Call.owing (c : Call) : Bool :=
  match c.operation, c.stage with
  | .create _, .waiting | .create _, .ready | .start, .waiting | .start, .ready => true
  | _, _ => false

/- A stop or a delete that Nova has accepted and that has not written the gauge. -/
def Call.dirty (c : Call) : Bool :=
  match c.operation, c.stage with
  | .stop, .waiting | .stop, .ready | .stop, .listed _ => true
  | .delete, .waiting | .delete, .ready | .delete, .listed _ => true
  | _, _ => false

def Stage.isListed : Stage → Bool
  | .listed _ => true
  | _ => false

/- A server that is on its way to ACTIVE. -/
def Server.underway (v : Server) : Bool :=
  match v.task with
  | some .building | some .starting | some .rebooting => true
  | _ => false

namespace State
variable (s : State)

def uncounted : Nat := s.calls.countP Call.owing

def underway : Nat := s.servers.countP Server.underway

/- What the gauge should show, once everything on its way has arrived and been counted. -/
def Balanced (count : Int) : Prop := count + s.uncounted = s.active + s.underway

end State

/- When a listing is answered, as many creates and starts are uncounted as servers are on
their way to ACTIVE, and a delete lists when its server is gone; and the gauge is not
written between the answer to a listing and the write that follows it. -/
def calm (s : State) : Event → Bool
  | .list i =>
    decide (s.uncounted = s.underway) &&
      match s.calls[i]? with
      | some ⟨.delete, server, _⟩ => (s.servers[server]?).all (fun v => !v.present)
      | _ => true
  | .finish i =>
    match s.calls[i]? with
    | some ⟨.reboot, _, _⟩ => true
    | _ => (s.calls.eraseIdx i).all (fun c => !c.stage.isListed)
  | _ => true

end VMachine.OpenStack.Gauge
