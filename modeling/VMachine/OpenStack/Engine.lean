import VMachine.OpenStack.Compute

/-! `VMProvisioningEngine`: the lifecycle operations on Nova servers. Requests to Nova are
waited for up to a limit; the outcome of an operation is found by polling. The loops carry
a bound on the number of polls that the passing of time makes large enough. -/
namespace VMachine.OpenStack
open Py Effects
open Cache (seconds)

/- VALID_STATE_TRANSITIONS. -/
def validStateTransitions (operation : String) : List String :=
  (([("start", ["SHUTOFF", "STOPPED", "SUSPENDED", "ERROR"]), ("stop", ["ACTIVE", "PAUSED"]),
    ("reboot", ["ACTIVE"]), ("delete", ["ACTIVE", "SHUTOFF", "STOPPED", "ERROR", "SUSPENDED"])] :
    List (String × List String)).lookup operation).getD []

def provisioningTimeout : Nat := seconds 300
def lifecycleTimeout : Nat := seconds 120
def serverPollInterval : Nat := seconds 3

structure VMCreateRequest where
  name : String
  flavorId : String
  imageId : String
  networkIds : List String
  keypair : Option String := none
  securityGroups : Option (List String) := none
  availabilityZone : Option String := none
  metadata : List (String × Val) := []
  deriving Repr

structure VMOperationResponse where
  serverId : String
  operation : String
  status : String
  elapsed : Nat
  deriving Repr

def vmDetailSchema : Schema where
  name := "VMDetail"
  fields := [{ name := "id", type := .str, default := some (.str "") },
    { name := "name", type := .str, default := some (.str "") },
    { name := "status", type := .str, default := some (.str "") },
    optionalStr "flavor_id", optionalStr "image_id",
    { name := "addresses", type := .dict (.list .str), default := some (.dict []) },
    { name := "metadata", type := .dict .str, default := some (.dict []) },
    optionalStr "created", optionalStr "updated", optionalStr "key_name", optionalStr "availability_zone",
    optionalStr "power_state", { name := "progress", type := .optional .int, default := some .none }]

/- The power state, from the extended status or else from the VM state. -/
def powerState (server : Val) : Val :=
  match ((server.get? "OS-EXT-STS").getD .none).get? "power_state" with
  | none | some .none =>
    match server.get? "vm_state" with
    | some state => if state.truthy then .str state.text else .none
    | none => .none
  | some state => .str state.text

def serializeVm (server : Val) : Except Exc Obj :=
  validate vmDetailSchema (serializeResource server
      ["id", "name", "status", "created", "updated", "key_name", "availability_zone", "progress"] ++
    [("flavor_id", extractReferenceId ((server.get? "flavor").getD .none)),
      ("image_id", extractReferenceId ((server.get? "image").getD .none)),
      ("addresses", extractAddresses ((server.get? "addresses").getD .none)),
      ("metadata", extractStringMapping ((server.get? "metadata").getD .none)),
      ("power_state", powerState server)])

/- `detail.status`, a declared string of every VMDetail. -/
def statusOf (detail : Obj) : String :=
  match detail.getattr "status" with
  | some (.str status) => status
  | _ => ""

/- `_get_id`: an id that is missing, None or empty raises. -/
def getId (server : Val) : Except Exc String :=
  match server.get? "id" with
  | some id =>
    if id.truthy then .ok id.text
    else .error (.openStackIntegrationException "Server object has no id attribute")
  | none => .error (.openStackIntegrationException "Server object has no id attribute")

def validateState (status operation : String) : Except Exc Unit :=
  let allowed := validStateTransitions operation
  if status ∈ allowed then .ok ()
  else .error (.appException
    ("Cannot " ++ operation ++ " VM in state '" ++ status ++ "' (allowed: " ++
      Val.text (.list (allowed.map .str)) ++ ")") 409 "invalid_state_transition")

def operationToSdk (operation : String) : Except Exc String :=
  match [("start", "start_server"), ("stop", "stop_server"), ("reboot", "reboot_server"),
    ("delete", "delete_server")].lookup operation with
  | some sdk => .ok sdk
  | none => .error (.appException ("Unsupported operation: " ++ operation) 400 "invalid_operation")

section Engine
variable (env : Env)

/- `_nova_call`. The compute proxy has every method that the engine names. -/
def novaCall (method : String) (timeout : Nat) (args : List Val) (kwargs : List (String × Val)) : M Reply := do
  create env
  callWithTimeout env ⟨"compute", method, args, kwargs⟩ timeout

def getVm (serverId : String) : M Obj := do
  let server ← novaCall env "get_server" lifecycleTimeout [.str serverId] []
  if server.value.truthy then ofExcept (serializeVm server.value)
  else throw (.appException "Server not found" 404 "server_not_found")

def listVms : M (List Obj) := do
  let servers ← novaCall env "servers" lifecycleTimeout [] []
  ofExcept (comprehend serializeVm servers)

def getActiveCount : M Nat := do
  let servers ← listVms env
  let active := (servers.filter (fun s => statusOf s = "ACTIVE")).length
  modify (fun w => { w with metrics := { w.metrics with activeCount := active } })
  return active

def incActive : M Unit :=
  modify (fun w => { w with metrics := { w.metrics with activeCount := w.metrics.activeCount + 1 } })

/- The loop of `_wait_for_active` and `_wait_for_stopped`: poll until the status is wanted,
an error, or the deadline. -/
def waitLoop (wanted : List String) (failed : String → Exc) (late : Exc) (serverId : String)
    (deadline : Nat) : Nat → M Obj
  | 0 => throw late
  | polls + 1 => do
    if (← monotonic) < deadline then
      let detail ← getVm env serverId
      if statusOf detail ∈ wanted then return detail
      else if statusOf detail ∈ ["ERROR", "UNKNOWN"] then throw (failed (statusOf detail))
      else
        asyncSleep env serverPollInterval
        waitLoop wanted failed late serverId deadline polls
    else throw late

/- More polls than this do not fit between now and the deadline. -/
def pollBudget (timeout : Nat) : Nat := timeout / serverPollInterval + 1

def waitForActive (serverId : String) (timeout : Nat) : M Obj := do
  let deadline := (← monotonic) + timeout
  waitLoop env ["ACTIVE"]
    (fun status => .appException ("VM entered " ++ status ++ " state during provisioning") 500
      "vm_provisioning_failed")
    (.timeoutError ("VM " ++ serverId ++ " did not reach ACTIVE within " ++ toString (timeout / seconds 1) ++ ".0s"))
    serverId deadline (pollBudget timeout)

def waitForStopped (serverId : String) (timeout : Nat) : M Obj := do
  let deadline := (← monotonic) + timeout
  waitLoop env ["SHUTOFF", "STOPPED"]
    (fun status => .appException ("VM entered " ++ status ++ " state while stopping") 500 "vm_stop_failed")
    (.timeoutError ("VM " ++ serverId ++ " did not reach SHUTOFF within " ++ toString (timeout / seconds 1) ++ ".0s"))
    serverId deadline (pollBudget timeout)

/- Gone is what a 404 says; any other exception ends the wait, and so does the deadline. -/
def deletedLoop (serverId : String) (deadline : Nat) : Nat → M Unit
  | 0 => return
  | polls + 1 => do
    if (← monotonic) < deadline then
      let gone ← tryCatch (do let _ ← getVm env serverId; return false)
        (fun exc => if exc.statusCode = some 404 then return true else throw exc)
      if gone then return
      else
        asyncSleep env serverPollInterval
        deletedLoop serverId deadline polls
    else return

def waitForDeleted (serverId : String) (timeout : Nat) : M Unit := do
  let deadline := (← monotonic) + timeout
  deletedLoop env serverId deadline (pollBudget timeout)

/- The request for a server's deletion, the same in every place that makes it. -/
def requestDeletion (serverId : String) (timeout : Nat) : M Unit := do
  let _ ← novaCall env "delete_server" timeout [.str serverId] [("ignore_missing", .bool true)]

/- What it raises is logged and swallowed. -/
def cleanupFailedServer (serverId : String) : M Unit :=
  tryCatch (requestDeletion env serverId (seconds 30)) (fun _ => return)

def createKwargs (request : VMCreateRequest) : List (String × Val) :=
  [("name", .str request.name), ("image_id", .str request.imageId), ("flavor_id", .str request.flavorId),
    ("networks", .list (request.networkIds.map (fun nid => .dict [("uuid", .str nid)]))),
    ("metadata", .dict request.metadata)] ++ given "key_name" request.keypair ++
    (match request.securityGroups with
      | some (sg :: sgs) => [("security_groups", .list ((sg :: sgs).map (fun g => .dict [("name", .str g)])))]
      | _ => []) ++
    given "availability_zone" request.availabilityZone

/- An audit entry of the engine. The elapsed time in its payload is left out. -/
def audit (action : String) (resourceId : Option String) (status : String)
    (payload : List (String × Val)) : M Unit :=
  enqueueAuditEntry env { uuid := "", action := some action, resourceType := some "vm", resourceId := resourceId,
                          status := status, payload := some payload }

/- The body of create_vm after Nova has returned a server. -/
def provision (server : Val) : M Obj := do
  let serverId ← ofExcept (getId server)
  let detail ← waitForActive env serverId provisioningTimeout
  modify (fun w => { w with metrics := { w.metrics with
    createDuration := w.metrics.createDuration ++ ["success"], activeCount := w.metrics.activeCount + 1 } })
  audit env "vm.create" (some serverId) "success" []
  return detail

/- Its `except` clause. `server` is None until Nova has returned one. The id is looked up
again for the audit entry. -/
def removeLeftover (server : Val) : M Unit :=
  match server with
  | .none => return
  | _ => do
    let sid ← ofExcept (getId server)
    cleanupFailedServer env sid

def leftoverId (server : Val) : Except Exc (Option String) :=
  if server.truthy then (getId server).map some else .ok none

def abandonCreate {α : Type} (server : Val) (exc : Exc) : M α := do
  modify (fun w => { w with metrics := { w.metrics with
    createDuration := w.metrics.createDuration ++ ["failed"]
    createFailures := w.metrics.createFailures ++ [exc.type] } })
  removeLeftover env server
  let resourceId ← ofExcept (leftoverId server)
  audit env "vm.create" resourceId "failed" [("error_type", .str exc.type)]
  throw exc

def createVm (request : VMCreateRequest) : M Obj := do
  let server ← tryCatch (novaCall env "create_server" provisioningTimeout [] (createKwargs request))
    (abandonCreate env .none)
  tryCatch (provision env server.value) (abandonCreate env server.value)

/- The two ends of every other operation: count it, write the audit entry, and return or
raise. -/
def succeed (serverId operation : String) (t0 : Nat) : M VMOperationResponse := do
  let elapsed := (← monotonic) - t0
  modify (fun w => { w with metrics := { w.metrics with
    lifecycleOperations := w.metrics.lifecycleOperations ++ [(operation, "success")] } })
  audit env ("vm." ++ operation) (some serverId) "success" []
  return ⟨serverId, operation, "success", elapsed⟩

def fail {α : Type} (serverId operation : String) (exc : Exc) : M α := do
  modify (fun w => { w with metrics := { w.metrics with
    lifecycleOperations := w.metrics.lifecycleOperations ++ [(operation, "failed")] } })
  audit env ("vm." ++ operation) (some serverId) "failed" [("error_type", .str exc.type)]
  throw exc

/- What follows the request, by operation. -/
def awaitOutcome (serverId operation : String) : M Unit :=
  if operation = "start" then do
    let _ ← waitForActive env serverId lifecycleTimeout
    incActive
  else if operation = "stop" then do
    let _ ← waitForStopped env serverId lifecycleTimeout
    let _ ← getActiveCount env
  else if operation = "reboot" then do
    let _ ← waitForActive env serverId lifecycleTimeout
  else return

def lifecycleOperation (serverId operation : String) : M VMOperationResponse := do
  let t0 ← monotonic
  tryCatch (do
    let detail ← getVm env serverId
    ofExcept (validateState (statusOf detail) operation)
    let sdkMethod ← ofExcept (operationToSdk operation)
    let _ ← novaCall env sdkMethod lifecycleTimeout [.str serverId]
      (if operation = "reboot" then [("reboot_type", .str "SOFT")] else [])
    awaitOutcome env serverId operation
    succeed env serverId operation t0)
    (fail env serverId operation)

def startVm (serverId : String) : M VMOperationResponse := lifecycleOperation env serverId "start"

def stopVm (serverId : String) : M VMOperationResponse := lifecycleOperation env serverId "stop"

def rebootVm (serverId : String) : M VMOperationResponse := lifecycleOperation env serverId "reboot"

/- The counter is incremented before the gauge is refreshed, so a failure of the refresh
counts once more as a failed deletion. -/
def deleteVm (serverId : String) : M VMOperationResponse := do
  let t0 ← monotonic
  tryCatch (do
    let detail ← getVm env serverId
    ofExcept (validateState (statusOf detail) "delete")
    requestDeletion env serverId lifecycleTimeout
    tryCatch (waitForDeleted env serverId (seconds 60)) (fun _ => return)
    let elapsed := (← monotonic) - t0
    modify (fun w => { w with metrics := { w.metrics with
      lifecycleOperations := w.metrics.lifecycleOperations ++ [("delete", "success")] } })
    let _ ← getActiveCount env
    audit env "vm.delete" (some serverId) "success" []
    return ⟨serverId, "delete", "success", elapsed⟩)
    (fail env serverId "delete")

end Engine

/- Every request the engine makes, but for the one that creates a server. -/
def engineRequests : List String :=
  ["get_server", "servers", "delete_server", "start_server", "stop_server", "reboot_server"]

/- Those of them that only look. -/
def readRequests : List String := ["get_server", "servers"]

theorem operationToSdk_mem {operation sdkMethod : String} (ok : operationToSdk operation = .ok sdkMethod) :
    sdkMethod ∈ engineRequests := by
  unfold operationToSdk at ok
  split at ok
  · rename_i found
    cases ok
    obtain ⟨before, after, whole, _⟩ := List.lookup_eq_some_iff.mp found
    have listed : (operation, sdkMethod) ∈ before ++ (operation, sdkMethod) :: after := by simp
    rw [← whole] at listed
    simp only [List.mem_cons, Prod.mk.injEq, List.not_mem_nil, or_false] at listed
    obtain ⟨_, rfl⟩ | ⟨_, rfl⟩ | ⟨_, rfl⟩ | ⟨_, rfl⟩ := listed <;> decide
  · contradiction

section Reading
variable {env : Env} {allowed : String → Prop} {F : Frame World} (silent : Silent env allowed F)
  (reads : ∀ operation ∈ readRequests, allowed operation)

include silent

theorem novaCall_frames {method : String} (timeout : Nat) (args : List Val) (kwargs : List (String × Val))
    (permitted : allowed method) : Frames F (novaCall env method timeout args kwargs) :=
  frames_bind (create_frames silent) (fun _ => callWithTimeout_frames silent _ permitted)

include reads

theorem getVm_frames (serverId : String) : Frames F (getVm env serverId) :=
  frames_bind (novaCall_frames silent _ _ _ (reads _ (by decide))) (fun _ =>
    frames_ite _ (ofExcept_frames _) (frames_throw _))

omit reads in
theorem getActiveCount_frames (lists : allowed "servers") : Frames F (getActiveCount env) := by
  refine frames_bind (frames_bind (novaCall_frames silent _ _ _ lists) ?_) (fun _ => ?_)
  · exact fun _ => ofExcept_frames _
  exact frames_bind (frames_modify (fun w => silent.gauged w _)) (fun _ => frames_pure _)

theorem waitLoop_frames (wanted : List String) (failed : String → Exc) (late : Exc) (serverId : String)
    (deadline polls : Nat) : Frames F (waitLoop env wanted failed late serverId deadline polls) := by
  induction polls with
  | zero => exact frames_throw late
  | succ polls ih =>
    refine frames_bind (frames_bind frames_get (fun _ => frames_pure _)) (fun _ => ?_)
    refine frames_ite _ (frames_bind (getVm_frames silent reads _) (fun detail => ?_)) (frames_throw _)
    refine frames_ite _ (frames_pure _) (frames_ite _ (frames_throw _) ?_)
    exact frames_bind (asyncSleep_frames silent _) (fun _ => ih)

theorem waitForActive_frames (serverId : String) (timeout : Nat) :
    Frames F (waitForActive env serverId timeout) :=
  frames_bind (frames_bind frames_get (fun _ => frames_pure _)) (fun _ => waitLoop_frames silent reads _ _ _ _ _ _)

theorem waitForStopped_frames (serverId : String) (timeout : Nat) :
    Frames F (waitForStopped env serverId timeout) :=
  frames_bind (frames_bind frames_get (fun _ => frames_pure _)) (fun _ => waitLoop_frames silent reads _ _ _ _ _ _)

theorem deletedLoop_frames (serverId : String) (deadline polls : Nat) :
    Frames F (deletedLoop env serverId deadline polls) := by
  induction polls with
  | zero => exact frames_pure _
  | succ polls ih =>
    refine frames_bind (frames_bind frames_get (fun _ => frames_pure _)) (fun _ => ?_)
    refine frames_ite _ (frames_bind (frames_tryCatch ?_ ?_) (fun gone => ?_)) (frames_pure _)
    · exact frames_bind (getVm_frames silent reads _) (fun _ => frames_pure _)
    · exact fun exc => frames_ite _ (frames_pure _) (frames_throw _)
    · exact frames_ite _ (frames_pure _) (frames_bind (asyncSleep_frames silent _) (fun _ => ih))

theorem waitForDeleted_frames (serverId : String) (timeout : Nat) :
    Frames F (waitForDeleted env serverId timeout) :=
  frames_bind (frames_bind frames_get (fun _ => frames_pure _)) (fun _ => deletedLoop_frames silent reads _ _ _)

theorem awaitOutcome_frames (serverId operation : String) : Frames F (awaitOutcome env serverId operation) := by
  refine frames_ite _ ?_ (frames_ite _ ?_ (frames_ite _ ?_ (frames_pure _)))
  · exact frames_bind (waitForActive_frames silent reads _ _) (fun _ => frames_modify (fun w => silent.gauged w _))
  · refine frames_bind (waitForStopped_frames silent reads _ _) (fun _ => ?_)
    exact frames_bind (getActiveCount_frames silent (reads _ (by decide))) (fun _ => frames_pure _)
  · exact frames_bind (waitForActive_frames silent reads _ _) (fun _ => frames_pure _)

end Reading

section Frames
variable {env : Env} {allowed : String → Prop} {F : Frame World} (inert : Inert env allowed F)
  (permits : ∀ operation ∈ engineRequests, allowed operation)

include permits in
theorem permits_reads : ∀ operation ∈ readRequests, allowed operation := by
  intro operation reading
  apply permits
  revert operation
  decide

include inert

theorem measure_frames (f : World → Metrics) :
    Frames F (modify (fun w => { w with metrics := f w }) : M PUnit) :=
  frames_modify (fun w => inert.measured w _)

theorem audit_frames (action : String) (resourceId : Option String) (status : String)
    (payload : List (String × Val)) : Frames F (audit env action resourceId status payload) :=
  enqueueAuditEntry_frames inert _

theorem fail_frames {α : Type} (serverId operation : String) (exc : Exc) :
    Frames F (fail env serverId operation exc : M α) := by
  refine frames_bind (measure_frames inert _) (fun _ => ?_)
  exact frames_bind (audit_frames inert _ _ _ _) (fun _ => frames_throw _)

include permits

theorem requestDeletion_frames (serverId : String) (timeout : Nat) :
    Frames F (requestDeletion env serverId timeout) :=
  frames_bind (novaCall_frames inert.toSilent _ _ _ (permits _ (by decide))) (fun _ => frames_pure _)

theorem provision_frames (server : Val) : Frames F (provision env server) := by
  refine frames_bind (ofExcept_frames _) (fun serverId => ?_)
  refine frames_bind (waitForActive_frames inert.toSilent (permits_reads permits) _ _) (fun detail => ?_)
  refine frames_bind (measure_frames inert _) (fun _ => ?_)
  exact frames_bind (audit_frames inert _ _ _ _) (fun _ => frames_pure _)

theorem removeLeftover_frames (server : Val) : Frames F (removeLeftover env server) := by
  unfold removeLeftover
  split
  · exact frames_pure _
  · refine frames_bind (ofExcept_frames _) (fun sid => ?_)
    exact frames_tryCatch (requestDeletion_frames inert permits _ _) (fun _ => frames_pure _)

theorem abandonCreate_frames {α : Type} (server : Val) (exc : Exc) :
    Frames F (abandonCreate env server exc : M α) := by
  refine frames_bind (measure_frames inert _) (fun _ =>
    frames_bind (removeLeftover_frames inert permits _) (fun _ => ?_))
  refine frames_bind (ofExcept_frames _) (fun resourceId => ?_)
  exact frames_bind (audit_frames inert _ _ _ _) (fun _ => frames_throw _)

theorem createVm_frames (creates : allowed "create_server") (request : VMCreateRequest) :
    Frames F (createVm env request) := by
  refine frames_bind
    (frames_tryCatch (novaCall_frames inert.toSilent _ _ _ creates) (abandonCreate_frames inert permits _)) ?_
  intro server
  exact frames_tryCatch (provision_frames inert permits _) (abandonCreate_frames inert permits _)

theorem lifecycleOperation_frames (serverId operation : String) :
    Frames F (lifecycleOperation env serverId operation) := by
  refine frames_bind (frames_bind frames_get (fun _ => frames_pure _)) (fun t0 => ?_)
  refine frames_tryCatch ?_ (fail_frames inert _ _)
  refine frames_bind (getVm_frames inert.toSilent (permits_reads permits) _) (fun detail =>
    frames_bind (ofExcept_frames _) (fun _ => ?_))
  refine ofExcept_bind_frames (fun sdkMethod known => ?_)
  refine frames_bind (novaCall_frames inert.toSilent _ _ _ (permits _ (operationToSdk_mem known))) (fun _ => ?_)
  refine frames_bind (awaitOutcome_frames inert.toSilent (permits_reads permits) _ _) (fun _ => ?_)
  refine frames_bind (frames_bind frames_get (fun _ => frames_pure _)) (fun elapsed => ?_)
  refine frames_bind (measure_frames inert _) (fun _ => ?_)
  exact frames_bind (audit_frames inert _ _ _ _) (fun _ => frames_pure _)

theorem deleteVm_frames (serverId : String) : Frames F (deleteVm env serverId) := by
  refine frames_bind (frames_bind frames_get (fun _ => frames_pure _)) (fun t0 => ?_)
  refine frames_tryCatch ?_ (fail_frames inert _ _)
  refine frames_bind (getVm_frames inert.toSilent (permits_reads permits) _) (fun detail =>
    frames_bind (ofExcept_frames _) (fun _ => ?_))
  refine frames_bind (requestDeletion_frames inert permits _ _) (fun _ => ?_)
  refine frames_bind (frames_tryCatch (waitForDeleted_frames inert.toSilent (permits_reads permits) _ _)
    (fun _ => frames_pure _)) (fun _ => ?_)
  refine frames_bind (frames_bind frames_get (fun _ => frames_pure _)) (fun elapsed => ?_)
  refine frames_bind (measure_frames inert _) (fun _ =>
    frames_bind (getActiveCount_frames inert.toSilent (permits _ (by decide))) (fun _ => ?_))
  exact frames_bind (audit_frames inert _ _ _ _) (fun _ => frames_pure _)

end Frames

/- No step of the engine turns the clock back. -/
def later : Frame World where
  rel s t := s.now ≤ t.now
  refl _ := Nat.le_refl _
  trans first second := Nat.le_trans first second

theorem later_inert (env : Env) : Inert env (fun _ => True) later where
  asked _ := Nat.le_refl _
  passed w ticks := Nat.le_add_right w.now ticks
  connected _ := Nat.le_refl _
  issued _ _ _ _ := Nat.le_refl _
  audited _ _ := Nat.le_refl _
  measured _ _ := Nat.le_refl _

section Polling
variable (env : Env) (wanted : List String) (failed : String → Exc) (late : Exc) (serverId : String) (deadline : Nat)

theorem waitLoop_over (polls : Nat) {w : World} (past : deadline ≤ w.now) :
    waitLoop env wanted failed late serverId deadline polls w = .error late w := by
  cases polls with
  | zero => rfl
  | succ polls =>
    change (if w.now < deadline then _ else throw late : M Obj) w = .error late w
    rw [if_neg (Nat.not_lt.mpr past)]
    rfl

theorem pollBudget_enough (timeout : Nat) : timeout ≤ pollBudget timeout * serverPollInterval := by
  have positive : 0 < serverPollInterval := by decide
  have remainder : timeout < timeout / serverPollInterval * serverPollInterval + serverPollInterval :=
    Nat.lt_div_mul_add positive
  rw [pollBudget, Nat.add_mul, Nat.one_mul]
  omega

end Polling

end VMachine.OpenStack
