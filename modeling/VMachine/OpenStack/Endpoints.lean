import VMachine.OpenStack.Services
import VMachine.OpenStack.Tasks

/-! The tracked endpoints that change networks, routers, security groups, images and
flavors. A handler, the service it calls and the models between them were written apart, and
nothing but a run brings them together: a handler may name a method or an attribute that the
other side does not have, and then its task is marked failed, whatever has been created. -/
namespace VMachine.OpenStack
open Py Effects

/- A model with its task, or 204 with the task in the header X-Operation-Task-ID. -/
inductive Response where
  | model (o : Obj)
  | noContent (taskId : Nat)
  deriving Repr

namespace Endpoints
variable (env : Env)

/- The handlers that return what the service returns. `attr` is where they look for its id. -/
def trackedCreate (operationType targetType : String) (targetId failedTarget : Val) (attr : String)
    (service : M Any) : M Response :=
  tracked env operationType targetType targetId failedTarget (fun task => do
    let response ← service
    let id ← response.getattr attr
    updateTask env task .succeeded id none
    match response with
    | .model o => return .model (o.copyWith "operation_task_id" (.str (toString task)))
    | .val v => fault (.attributeError v.type "model_copy"))

/- The handlers that return no content. -/
def trackedAction (operationType targetType targetId : String) (service : M Any) : M Response := do
  let task ← tracked env operationType targetType (.str targetId) (.str targetId) (fun task => do
    let _ ← service
    updateTask env task .succeeded (.str targetId) none
    return task)
  return .noContent task

def createNetwork (payload : Obj) : M Response := do
  let name ← (Any.model payload).getattr "name"
  trackedCreate env "create_network" "network" name .none "network_id"
    ((networkService env).invoke "create_network" (pure [.model payload]))

def deleteNetwork (networkId : String) : M Response :=
  trackedAction env "delete_network" "network" networkId
    ((networkService env).invoke "delete_network" (pure [.val (.str networkId)]))

def createRouter (payload : Obj) : M Response := do
  let name ← (Any.model payload).getattr "name"
  trackedCreate env "create_router" "router" name .none "router_id"
    ((routerService env).invoke "create_router" (pure [.model payload]))

def deleteRouter (routerId : String) : M Response :=
  trackedAction env "delete_router" "router" routerId
    ((routerService env).invoke "delete_router" (pure [.val (.str routerId)]))

def addInterface (routerId : String) (payload : Obj) : M Response :=
  trackedAction env "add_interface" "router" routerId
    ((routerService env).invoke "add_interface" (do
      let subnetId ← (Any.model payload).getattr "subnet_id"
      return [.val (.str routerId), .val subnetId]))

def removeInterface (routerId subnetId : String) : M Response :=
  trackedAction env "remove_interface" "router" routerId
    ((routerService env).invoke "remove_interface" (pure [.val (.str routerId), .val (.str subnetId)]))

def createSecurityGroup (payload : Obj) : M Response := do
  let name ← (Any.model payload).getattr "name"
  trackedCreate env "create_security_group" "security_group" name .none "security_group_id"
    ((securityGroupService env).invoke "create_security_group" (pure [.model payload]))

def deleteSecurityGroup (securityGroupId : String) : M Response :=
  trackedAction env "delete_security_group" "security_group" securityGroupId
    ((securityGroupService env).invoke "delete_security_group" (pure [.val (.str securityGroupId)]))

def createSecurityGroupRule (securityGroupId : String) (payload : Obj) : M Response :=
  trackedCreate env "create_security_group_rule" "security_group" (.str securityGroupId) (.str securityGroupId)
    "rule_id" ((securityGroupService env).invoke "create_rule" (pure [.val (.str securityGroupId), .model payload]))

def deleteSecurityGroupRule (ruleId : String) : M Response :=
  trackedAction env "delete_security_group_rule" "security_group_rule" ruleId
    ((securityGroupService env).invoke "delete_rule" (pure [.val (.str ruleId)]))

def createImage (payload : Obj) : M Response := do
  let name ← (Any.model payload).getattr "name"
  trackedCreate env "create_image" "image" name .none "id"
    ((imageService env).invoke "create_image" (pure [.model payload]))

def deleteImage (imageId : String) : M Response :=
  trackedAction env "delete_image" "image" imageId
    ((imageService env).invoke "delete_image" (pure [.val (.str imageId)]))

def createFlavor (payload : Obj) : M Response := do
  let name ← (Any.model payload).getattr "name"
  trackedCreate env "create_flavor" "flavor" name .none "id"
    ((flavorService env).invoke "create_flavor" (pure [.model payload]))

def deleteFlavor (flavorId : String) : M Response :=
  trackedAction env "delete_flavor" "flavor" flavorId
    ((flavorService env).invoke "delete_flavor" (pure [.val (.str flavorId)]))

end Endpoints

inductive Request where
  | createNetwork (payload : Obj)
  | deleteNetwork (networkId : String)
  | createRouter (payload : Obj)
  | deleteRouter (routerId : String)
  | addInterface (routerId : String) (payload : Obj)
  | removeInterface (routerId subnetId : String)
  | createSecurityGroup (payload : Obj)
  | deleteSecurityGroup (securityGroupId : String)
  | createSecurityGroupRule (securityGroupId : String) (payload : Obj)
  | deleteSecurityGroupRule (ruleId : String)
  | createImage (payload : Obj)
  | deleteImage (imageId : String)
  | createFlavor (payload : Obj)
  | deleteFlavor (flavorId : String)

/- A payload that is not valid for its model never reaches the handler. -/
def Request.Valid : Request → Prop
  | .createNetwork payload => payload.Valid networkCreateRequestSchema
  | .createRouter payload => payload.Valid routerCreateRequestSchema
  | .addInterface _ payload => payload.Valid routerInterfaceRequestSchema
  | .createSecurityGroup payload => payload.Valid securityGroupCreateRequestSchema
  | .createSecurityGroupRule _ payload => payload.Valid securityGroupRuleCreateRequestSchema
  | .createImage payload => payload.Valid imageCreateRequestSchema
  | .createFlavor payload => payload.Valid flavorCreateRequestSchema
  | _ => True

def handle (env : Env) : Request → M Response
  | .createNetwork payload => Endpoints.createNetwork env payload
  | .deleteNetwork networkId => Endpoints.deleteNetwork env networkId
  | .createRouter payload => Endpoints.createRouter env payload
  | .deleteRouter routerId => Endpoints.deleteRouter env routerId
  | .addInterface routerId payload => Endpoints.addInterface env routerId payload
  | .removeInterface routerId subnetId => Endpoints.removeInterface env routerId subnetId
  | .createSecurityGroup payload => Endpoints.createSecurityGroup env payload
  | .deleteSecurityGroup securityGroupId => Endpoints.deleteSecurityGroup env securityGroupId
  | .createSecurityGroupRule securityGroupId payload =>
    Endpoints.createSecurityGroupRule env securityGroupId payload
  | .deleteSecurityGroupRule ruleId => Endpoints.deleteSecurityGroupRule env ruleId
  | .createImage payload => Endpoints.createImage env payload
  | .deleteImage imageId => Endpoints.deleteImage env imageId
  | .createFlavor payload => Endpoints.createFlavor env payload
  | .deleteFlavor flavorId => Endpoints.deleteFlavor env flavorId

/- The handler returns, no lookup has failed, and the task it made has succeeded. -/
def Truthful (m : M Response) (w : World) : Prop :=
  ∃ response t, m w = .ok response t ∧ t.faults = w.faults ∧
    ∃ task, t.tasks[w.tasks.length]? = some task ∧ task.state = .succeeded

/- What the SDK is asked to delete for the request, if the handler heeds its answer. -/
def Request.deletion : Request → Option SdkCall
  | .deleteNetwork id => some ⟨"network", "delete_network", [.str id], ignoreMissing⟩
  | .deleteRouter id => some ⟨"network", "delete_router", [.str id], ignoreMissing⟩
  | .deleteSecurityGroup id => some ⟨"network", "delete_security_group", [.str id], ignoreMissing⟩
  | .deleteSecurityGroupRule id => some ⟨"network", "delete_security_group_rule", [.str id], ignoreMissing⟩
  | .deleteFlavor id => some ⟨"compute", "delete_flavor", [.str id], ignoreMissing⟩
  | _ => none

/- The request deletes something, and is not denied. The two questions that come first are
those for the task. -/
def Request.Granted (env : Env) (w : World) : Request → Prop
  | .deleteImage _ => True
  | request => ∃ call, request.deletion = some call ∧ ¬ Denies (answer env { w with tick := w.tick + 2 } call)

section Creates
variable {env : Env} {payload : Obj}

theorem trackedCreate_raises {operationType targetType attr : String} {targetId failedTarget : Val}
    {service : M Any} (raises : Raises service) :
    Raises (Endpoints.trackedCreate env operationType targetType targetId failedTarget attr service) :=
  tracked_raises (fun _ => raises_bind raises _)

/-- The handler looks for the id where the model that the service returns has none. -/
theorem trackedCreate_undeclared {operationType targetType attr : String} {targetId failedTarget : Val}
    {service : M Any} {schema : Schema} (returns : Returns schema service)
    (absent : attr ∉ schema.fields.map Field.name) :
    Raises (Endpoints.trackedCreate env operationType targetType targetId failedTarget attr service) := by
  refine tracked_raises (fun _ => raises_after returns ?_)
  rintro _ ⟨o, rfl, valid⟩
  exact raises_bind (getattr_raises (getattr_undeclared valid absent)) _

theorem trackedAction_raises {operationType targetType targetId : String} {service : M Any}
    (raises : Raises service) : Raises (Endpoints.trackedAction env operationType targetType targetId service) :=
  raises_bind (tracked_raises (fun _ => raises_bind raises _)) _

theorem createNetwork_raises : Raises (Endpoints.createNetwork env payload) :=
  raises_then (fun _ => trackedCreate_undeclared (@createNetwork_returns env (.model payload)) (by decide))

theorem createRouter_raises : Raises (Endpoints.createRouter env payload) :=
  raises_then (fun _ => trackedCreate_undeclared (@createRouter_returns env (.model payload)) (by decide))

theorem createSecurityGroup_raises : Raises (Endpoints.createSecurityGroup env payload) :=
  raises_then (fun _ => trackedCreate_undeclared (@createSecurityGroup_returns env (.model payload)) (by decide))

theorem addInterface_raises (routerId : String) : Raises (Endpoints.addInterface env routerId payload) :=
  trackedAction_raises (invoke_missing _ rfl)

theorem removeInterface_raises (routerId subnetId : String) :
    Raises (Endpoints.removeInterface env routerId subnetId) :=
  trackedAction_raises (invoke_missing _ rfl)

theorem createSecurityGroupRule_raises (securityGroupId : String) :
    Raises (Endpoints.createSecurityGroupRule env securityGroupId payload) :=
  trackedCreate_raises (@invoke_arity _ _ (.unary "create_rule" (createRule env)) _ rfl rfl)

theorem createImage_never_returns (valid : payload.Valid imageCreateRequestSchema) :
    Raises (Endpoints.createImage env payload) :=
  raises_then (fun _ => trackedCreate_raises (createImage_raises valid))

theorem createFlavor_never_returns (valid : payload.Valid flavorCreateRequestSchema) :
    Raises (Endpoints.createFlavor env payload) :=
  raises_then (fun _ => trackedCreate_raises (createFlavor_raises valid))

end Creates

section Deletes
variable {env : Env} {w : World}

/- The service deletes unless `denied`, and touches neither tasks nor faults. -/
def DeletesUnless (w : World) (service : M Any) (denied : Prop) : Prop :=
  wp service w (fun _ t => ¬ denied ∧ t.tasks = w.tasks ∧ t.faults = w.faults) (fun _ _ => denied)

/-- A task of such a handler ends as succeeded if the service deletes, and as failed if not. -/
theorem trackedAction_spec (succeeds : AllSucceed env) {operationType targetType targetId : String}
    {service : M Any} {denied : Prop}
    (spec : DeletesUnless (w.begun operationType targetType (.str targetId)) service denied) :
    wp (Endpoints.trackedAction env operationType targetType targetId service) w
      (fun _ t => ¬ denied ∧ t.faults = w.faults ∧
        ∃ task, t.tasks[w.tasks.length]? = some task ∧ task.state = .succeeded)
      (fun _ _ => denied) := by
  rw [Endpoints.trackedAction, wp_bind, tracked_wp succeeds.writes, wp_bind]
  refine wp_mono spec ?_ ?_
  · rintro _ t ⟨granted, tasks, faults⟩
    have running : t.tasks[w.tasks.length]? =
        some ⟨operationType, targetType, .str targetId, .running, none, none⟩ := by
      rw [tasks]
      exact List.getElem?_concat_length
    have bound := (List.getElem?_eq_some_iff.mp running).1
    rw [wp_bind, updateTask_wp (succeeds.writes _) running]
    exact ⟨granted, faults, _, List.getElem?_set_self bound, rfl⟩
  · intro exc t denied
    exact wp_mono (wp_true _ t) (fun _ _ _ => denied) (fun _ _ _ => denied)

theorem truthful_iff {m : M Response} {denied : Prop}
    (spec : wp m w
      (fun _ t => ¬ denied ∧ t.faults = w.faults ∧
        ∃ task, t.tasks[w.tasks.length]? = some task ∧ task.state = .succeeded)
      (fun _ _ => denied)) : Truthful m w ↔ ¬ denied := by
  constructor
  · rintro ⟨response, t, run, _⟩
    exact (wp_of_ok spec run).1
  · intro granted
    cases run : m w with
    | ok response t => exact ⟨response, t, run, (wp_of_ok spec run).2⟩
    | error exc t => exact absurd (wp_of_error spec run) granted

/- `deleteOr404` as the whole of a method. -/
theorem deleteOr404_deletes (succeeds : AllSucceed env) (service operation message code : String) (id : Any) :
    DeletesUnless w (do
        deleteOr404 env service operation message code id
        return .val .none)
      (Denies (answer env w ⟨service, operation, [id.toVal], ignoreMissing⟩)) := by
  rw [DeletesUnless, wp_bind]
  exact deleteOr404_spec succeeds service operation message code id

theorem deleteNetwork_deletes (succeeds : AllSucceed env) (id : Any) :
    DeletesUnless w (deleteNetwork env id)
      (Denies (answer env w ⟨"network", "delete_network", [id.toVal], ignoreMissing⟩)) := by
  rw [DeletesUnless, deleteNetwork, wp_bind]
  exact deleteOr404_spec succeeds _ _ _ _ id

theorem deleteImage_deletes (succeeds : AllSucceed env) (id : Any) :
    DeletesUnless w (deleteImage env id) False := by
  rw [DeletesUnless, deleteImage, wp_bind]
  refine wp_mono (call_succeeds succeeds _ _ _ _) ?_ (fun _ _ never => never)
  rintro reply t ⟨_, kept⟩
  exact ⟨not_false, kept⟩

theorem trackedAction_truthful_iff (succeeds : AllSucceed env) {operationType targetType targetId : String}
    {service : M Any} {denied : Prop}
    (spec : DeletesUnless (w.begun operationType targetType (.str targetId)) service denied) :
    Truthful (Endpoints.trackedAction env operationType targetType targetId service) w ↔ ¬ denied :=
  truthful_iff (trackedAction_spec succeeds spec)

/-- The handlers of the five deletes that heed the answer, from the request they make. -/
theorem heeding_truthful_iff (succeeds : AllSucceed env) {operationType targetType targetId : String}
    {service : M Any} {request : Request} {call : SdkCall} (heeds : request.deletion = some call)
    (spec : DeletesUnless (w.begun operationType targetType (.str targetId)) service
      (Denies (answer env (w.begun operationType targetType (.str targetId)) call))) :
    Truthful (Endpoints.trackedAction env operationType targetType targetId service) w ↔
      ∃ call, request.deletion = some call ∧ ¬ Denies (answer env { w with tick := w.tick + 2 } call) := by
  rw [trackedAction_truthful_iff succeeds spec, heeds]
  constructor
  · intro granted
    exact ⟨call, rfl, granted⟩
  · rintro ⟨_, same, granted⟩
    cases same
    exact granted

/-- The handlers that never return. -/
theorem never_truthful {m : M Response} {request : Request} (raises : Raises m) (other : request.deletion = none) :
    Truthful m w ↔
      ∃ call, request.deletion = some call ∧ ¬ Denies (answer env { w with tick := w.tick + 2 } call) := by
  constructor
  · rintro ⟨response, t, run, _⟩
    exact absurd run raises.not_ok
  · rintro ⟨call, heeds, _⟩
    rw [other] at heeds
    contradiction

/-- Every valid request, with every call and every write succeeding, is tracked truthfully
exactly when it is a delete that the SDK does not deny; none of the other handlers returns. -/
theorem tasks_truthful_iff {request : Request} (valid : request.Valid) (succeeds : AllSucceed env) :
    Truthful (handle env request) w ↔ request.Granted env w := by
  cases request with
  | createNetwork payload => exact never_truthful createNetwork_raises rfl
  | createRouter payload => exact never_truthful createRouter_raises rfl
  | createSecurityGroup payload => exact never_truthful createSecurityGroup_raises rfl
  | addInterface routerId payload => exact never_truthful (addInterface_raises routerId) rfl
  | removeInterface routerId subnetId => exact never_truthful (removeInterface_raises routerId subnetId) rfl
  | createSecurityGroupRule securityGroupId payload =>
    exact never_truthful (createSecurityGroupRule_raises securityGroupId) rfl
  | createImage payload => exact never_truthful (createImage_never_returns valid) rfl
  | createFlavor payload => exact never_truthful (createFlavor_never_returns valid) rfl
  | deleteNetwork id =>
    exact heeding_truthful_iff succeeds rfl (deleteNetwork_deletes succeeds (.val (.str id)))
  | deleteRouter id =>
    exact heeding_truthful_iff succeeds rfl (deleteOr404_deletes succeeds _ _ _ _ (.val (.str id)))
  | deleteSecurityGroup id =>
    exact heeding_truthful_iff succeeds rfl (deleteOr404_deletes succeeds _ _ _ _ (.val (.str id)))
  | deleteSecurityGroupRule id =>
    exact heeding_truthful_iff succeeds rfl (deleteOr404_deletes succeeds _ _ _ _ (.val (.str id)))
  | deleteFlavor id =>
    exact heeding_truthful_iff succeeds rfl (deleteOr404_deletes succeeds _ _ _ _ (.val (.str id)))
  | deleteImage id =>
    exact (trackedAction_truthful_iff succeeds (deleteImage_deletes succeeds (.val (.str id)))).trans
      (iff_of_true not_false trivial)

end Deletes

/- A cloud that does all it is asked for; its new networks are called net-1. -/
def obligingCloud : Env where
  ready := true
  listLimit := 1000
  connect _ := none
  sdk _ request := { result := .ok ⟨if request.operation = "create_network" then
    .dict [("id", .str "net-1"), ("name", .str "blue")] else .none, none⟩ }
  wall _ := 0
  lag _ := 0
  redisUp _ := true
  databaseUp _ := true
  uuid _ := "uuid"

theorem obligingCloud_succeeds : AllSucceed obligingCloud where
  ready := rfl
  connects _ := rfl
  answers _ _ := ⟨_, rfl⟩
  writes _ := rfl

theorem network_delete_truthful : Truthful (handle obligingCloud (.deleteNetwork "net-1")) .initial := by
  have valid : (Request.deleteNetwork "net-1").Valid := trivial
  apply (tasks_truthful_iff valid obligingCloud_succeeds).mpr
  refine ⟨_, rfl, ?_⟩
  rintro ⟨reply, same, value⟩
  cases same
  contradiction

def blueNetwork : Obj where
  cls := "NetworkCreateRequest"
  attrs := [("name", .str "blue"), ("cidr", .str "10.0.0.0/24"), ("subnet_name", .none), ("ip_version", .int 4),
    ("gateway_ip", .none), ("enable_dhcp", .bool true), ("shared", .bool false), ("admin_state_up", .bool true),
    ("dns_nameservers", .list [])]

theorem blueNetwork_valid : blueNetwork.Valid networkCreateRequestSchema :=
  ⟨[("name", .str "blue"), ("cidr", .str "10.0.0.0/24")], rfl⟩

/-- The network and its subnet are created, and the task says that this failed. -/
theorem blueNetwork_outcome :
    ∃ exc t task, handle obligingCloud (.createNetwork blueNetwork) .initial = .error exc t ∧
      t.log.map SdkCall.operation = ["find_network", "create_network", "create_subnet"] ∧
      t.tasks = [task] ∧ task.state = .failed ∧
      task.errorMessage = some "'NetworkSummary' object has no attribute 'network_id'" := by
  refine ⟨_, _, _, rfl, rfl, rfl, rfl, ?_⟩
  decide

theorem created_network_marked_failed :
    ¬ ∀ env request w, Request.Valid request → AllSucceed env → Truthful (handle env request) w := by
  intro claim
  obtain ⟨exc, t, _, raised, _⟩ := blueNetwork_outcome
  obtain ⟨response, u, returned, _⟩ :=
    claim obligingCloud (.createNetwork blueNetwork) .initial blueNetwork_valid obligingCloud_succeeds
  exact absurd (raised.symm.trans returned) (by simp)

end VMachine.OpenStack
