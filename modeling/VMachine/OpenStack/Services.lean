import VMachine.OpenStack.Compute

/-! The services behind the tracked endpoints: networks, routers, security groups, images
and flavors, with the models they take and return. A service is an instance of a class, so
its methods are looked up by name when they are called, and a method is given as many
arguments as the caller writes. A lookup that fails raises, and is kept as a fault. -/
namespace VMachine.OpenStack
open Py Effects

/- What a method takes and returns: plain data or an instance of a model. -/
inductive Any where
  | val (v : Val)
  | model (o : Obj)
  deriving Repr

/- What is passed on to the SDK. -/
def Any.toVal : Any → Val
  | .val v => v
  | .model o => .dict o.attrs

def fault {α : Type} (exc : Exc) : M α := do
  modify (fun w => { w with faults := w.faults ++ [exc] })
  throw exc

def Any.getattr (x : Any) (name : String) : M Val :=
  match x with
  | .val v => fault (.attributeError v.type name)
  | .model o =>
    match o.getattr name with
    | some v => return v
    | none => fault (.attributeError o.cls name)

inductive Method where
  | unary (name : String) (body : Any → M Any)
  | binary (name : String) (body : Any → Any → M Any)

def Method.name : Method → String
  | .unary name _ => name
  | .binary name _ => name

def Method.arity : Method → Nat
  | .unary _ _ => 1
  | .binary _ _ => 2

def Method.apply : Method → List Any → Option (M Any)
  | .unary _ body, [x] => some (body x)
  | .binary _ body, [x, y] => some (body x y)
  | _, _ => none

structure ServiceClass where
  name : String
  methods : List Method

/- `service.method(args)`: the method is looked up before the arguments are evaluated. The
two counts of a TypeError include `self`. -/
def ServiceClass.invoke (cls : ServiceClass) (method : String) (args : M (List Any)) : M Any :=
  match cls.methods.find? (fun m => m.name == method) with
  | none => fault (.attributeError cls.name method)
  | some m => do
    let args ← args
    match m.apply args with
    | some run => run
    | none => fault (.typeError (cls.name ++ "." ++ method ++ "() takes " ++ toString (m.arity + 1) ++
        " positional arguments but " ++ toString (args.length + 1) ++ " were given"))

section Schemas

def required (name : String) (type : Ty) : Field := { name := name, type := type }

/- `Field(..., min_length=1, max_length=255)`. -/
def resourceName : Field where
  name := "name"
  type := .str
  bound v := match v with
    | .str s => 1 ≤ s.length && s.length ≤ 255
    | _ => true

/- An integer of at least `least`. -/
def atLeast (least : Int) (name : String) (default : Option Val) : Field where
  name := name
  type := .int
  default := default
  bound v := match v with
    | .int i => least ≤ i
    | _ => true

def defaulted (name : String) (type : Ty) (default : Val) : Field :=
  { name := name, type := type, default := some default }

def optional (name : String) (type : Ty) : Field := defaulted name (.optional type) .none

def networkSummarySchema : Schema where
  name := "NetworkSummary"
  fields := [optionalStr "id", optionalStr "name", optionalStr "status", defaulted "subnets" (.list .str) (.list []),
    optional "admin_state_up" .bool, optional "shared" .bool, optional "is_router_external" .bool]

def networkCreateRequestSchema : Schema where
  name := "NetworkCreateRequest"
  fields := [resourceName, required "cidr" .str, optionalStr "subnet_name",
    { name := "ip_version", type := .int, default := some (.int 4),
      bound := fun v => match v with | .int i => 4 ≤ i && i ≤ 6 | _ => true },
    optionalStr "gateway_ip", defaulted "enable_dhcp" .bool (.bool true), defaulted "shared" .bool (.bool false),
    defaulted "admin_state_up" .bool (.bool true), defaulted "dns_nameservers" (.list .str) (.list [])]

def routerSummarySchema : Schema where
  name := "RouterSummary"
  fields := [optionalStr "id", optionalStr "name", optionalStr "status", optional "admin_state_up" .bool,
    optional "external_gateway_info" (.dict .any)]

def routerCreateRequestSchema : Schema where
  name := "RouterCreateRequest"
  fields := [resourceName, defaulted "admin_state_up" .bool (.bool true), optionalStr "external_network_id"]

def routerInterfaceRequestSchema : Schema where
  name := "RouterInterfaceRequest"
  fields := [required "subnet_id" .str]

def securityGroupSummarySchema : Schema where
  name := "SecurityGroupSummary"
  fields := [optionalStr "id", optionalStr "name", optionalStr "description", optionalStr "project_id"]

def securityGroupRuleSummarySchema : Schema where
  name := "SecurityGroupRuleSummary"
  fields := [optionalStr "id", optionalStr "security_group_id", optionalStr "direction", optionalStr "ethertype",
    optionalStr "protocol", optional "port_range_min" .int, optional "port_range_max" .int,
    optionalStr "remote_ip_prefix"]

def securityGroupCreateRequestSchema : Schema where
  name := "SecurityGroupCreateRequest"
  fields := [resourceName, optionalStr "description"]

def securityGroupRuleCreateRequestSchema : Schema where
  name := "SecurityGroupRuleCreateRequest"
  fields := [required "direction" .str, defaulted "ethertype" .str (.str "IPv4"), optionalStr "protocol",
    optional "port_range_min" .int, optional "port_range_max" .int, optionalStr "remote_ip_prefix"]

def imageSummarySchema : Schema where
  name := "ImageSummary"
  fields := [optionalStr "id", optionalStr "name", optionalStr "status", optionalStr "visibility",
    optionalStr "container_format", optionalStr "disk_format", optionalStr "operation_task_id"]

def imageCreateRequestSchema : Schema where
  name := "ImageCreateRequest"
  fields := [resourceName, defaulted "container_format" .str (.str "bare"),
    defaulted "disk_format" .str (.str "qcow2"), atLeast 0 "min_disk" (some (.int 0)),
    atLeast 0 "min_ram" (some (.int 0)), defaulted "visibility" .str (.str "private"),
    defaulted "protected" .bool (.bool false)]

def flavorSummarySchema : Schema where
  name := "FlavorSummary"
  fields := [optionalStr "id", optionalStr "name", optional "vcpus" .int, optional "ram" .int,
    optional "disk" .int, optionalStr "operation_task_id"]

def flavorCreateRequestSchema : Schema where
  name := "FlavorCreateRequest"
  fields := [resourceName, atLeast 1 "vcpus" none, atLeast 1 "ram" none, atLeast 0 "disk" none]

end Schemas

section Methods
variable (env : Env)

/- `Model(**kwargs)`. -/
def build (schema : Schema) (kwargs : List (String × Val)) : M Any := do
  return .model (← ofExcept (validate schema kwargs))

/- `getattr(resource, name, default)`. -/
def attrOr (resource : Val) (name : String) (default : Val) : Val := (resource.get? name).getD default

def ignoreMissing : List (String × Val) := [("ignore_missing", .bool true)]

/- A name that is taken answers 409. -/
def checkFree (operation kind code : String) (name : Val) : M Unit := do
  let existing ← call env "network" operation [name] ignoreMissing
  if existing.value.truthy then
    throw (.appException (kind ++ " '" ++ name.text ++ "' already exists") 409 code)

/- The delete methods: only an answer that is False means that nothing was there. -/
def deleteOr404 (service operation message code : String) (id : Any) : M Unit := do
  let deleted ← call env service operation [id.toVal] ignoreMissing
  match deleted.value with
  | .bool false => throw (.appException message 404 code)
  | _ => return

def networkSummary (network : Val) : M Any :=
  build networkSummarySchema (serializeResource network ["id", "name", "status", "shared", "admin_state_up"])

def createNetwork (payload : Any) : M Any := do
  let name ← payload.getattr "name"
  checkFree env "find_network" "Network" "network_already_exists" name
  let network ← call env "network" "create_network" [] [("name", name), ("admin_state_up", .bool true)]
  let id ← ofExcept (readAttr network.value "id")
  let cidr ← payload.getattr "cidr"
  let _ ← call env "network" "create_subnet" []
    [("name", .str (name.text ++ "-subnet")), ("network_id", id), ("cidr", cidr), ("ip_version", .int 4),
      ("enable_dhcp", .bool true)]
  cacheInvalidate env "networks"
  networkSummary network.value

def deleteNetwork (networkId : Any) : M Any := do
  deleteOr404 env "network" "delete_network" "Network not found" "network_not_found" networkId
  cacheInvalidate env "networks"
  return .val .none

def networkService : ServiceClass where
  name := "NetworkService"
  methods := [.unary "create_network" (createNetwork env), .unary "delete_network" (deleteNetwork env)]

def routerSummary (router : Val) : M Any := do
  let id ← ofExcept (readAttr router "id")
  build routerSummarySchema
    [("id", id), ("name", attrOr router "name" (.str "")), ("status", attrOr router "status" (.str "")),
      ("admin_state_up", attrOr router "admin_state_up" (.bool true))]

def createRouter (payload : Any) : M Any := do
  let name ← payload.getattr "name"
  checkFree env "find_router" "Router" "router_already_exists" name
  let router ← call env "network" "create_router" [] [("name", name), ("admin_state_up", .bool true)]
  routerSummary router.value

def deleteRouter (routerId : Any) : M Any := do
  deleteOr404 env "network" "delete_router" "Router not found" "router_not_found" routerId
  return .val .none

/- attach_subnet and detach_subnet. -/
def routerInterface (operation : String) (routerId subnetId : Any) : M Any := do
  let router ← call env "network" "get_router" [routerId.toVal] []
  if router.value.truthy then
    let _ ← call env "network" operation [router.value] [("subnet_id", subnetId.toVal)]
    return .val .none
  else throw (.appException "Router not found" 404 "router_not_found")

def attachSubnet (routerId subnetId : Any) : M Any :=
  routerInterface env "add_interface_to_router" routerId subnetId

def detachSubnet (routerId subnetId : Any) : M Any :=
  routerInterface env "remove_interface_from_router" routerId subnetId

def routerService : ServiceClass where
  name := "RouterService"
  methods := [.unary "create_router" (createRouter env), .unary "delete_router" (deleteRouter env),
    .binary "attach_subnet" (attachSubnet env), .binary "detach_subnet" (detachSubnet env)]

def securityGroupSummary (sg : Val) : M Any := do
  let id ← ofExcept (readAttr sg "id")
  let name ← ofExcept (readAttr sg "name")
  build securityGroupSummarySchema
    [("id", id), ("name", name), ("description", attrOr sg "description" (.str ""))]

def createSecurityGroup (payload : Any) : M Any := do
  let name ← payload.getattr "name"
  let description ← payload.getattr "description"
  let sg ← call env "network" "create_security_group" [] [("name", name), ("description", description)]
  securityGroupSummary sg.value

def deleteSecurityGroup (securityGroupId : Any) : M Any := do
  deleteOr404 env "network" "delete_security_group" "Security group not found" "security_group_not_found"
    securityGroupId
  return .val .none

def securityGroupRuleSummary (rule : Val) : M Any := do
  let id ← ofExcept (readAttr rule "id")
  build securityGroupRuleSummarySchema
    [("id", id), ("direction", attrOr rule "direction" (.str "")), ("protocol", attrOr rule "protocol" .none),
      ("port_range_min", attrOr rule "port_range_min" .none), ("port_range_max", attrOr rule "port_range_max" .none),
      ("remote_ip_prefix", attrOr rule "remote_ip_prefix" .none),
      ("ethertype", attrOr rule "ethertype" (.str "IPv4"))]

/- A keyword argument that is passed unless its value is None. -/
def unlessNone (name : String) (v : Val) : List (String × Val) :=
  match v with
  | .none => []
  | v => [(name, v)]

/- A keyword argument that is passed if its value is truthy. -/
def ifTruthy (name : String) (v : Val) : List (String × Val) := if v.truthy then [(name, v)] else []

def createRule (payload : Any) : M Any := do
  let direction ← payload.getattr "direction"
  let protocol ← payload.getattr "protocol"
  let ethertype ← payload.getattr "ethertype"
  let portRangeMin ← payload.getattr "port_range_min"
  let portRangeMax ← payload.getattr "port_range_max"
  let remoteIpPrefix ← payload.getattr "remote_ip_prefix"
  let rule ← call env "network" "create_security_group_rule" []
    ([("direction", direction), ("protocol", protocol), ("ethertype", ethertype.or (.str "IPv4"))] ++
      unlessNone "port_range_min" portRangeMin ++ unlessNone "port_range_max" portRangeMax ++
      ifTruthy "remote_ip_prefix" remoteIpPrefix)
  securityGroupRuleSummary rule.value

def deleteRule (ruleId : Any) : M Any := do
  deleteOr404 env "network" "delete_security_group_rule" "Security group rule not found" "rule_not_found" ruleId
  return .val .none

def securityGroupService : ServiceClass where
  name := "SecurityGroupService"
  methods := [.unary "create_security_group" (createSecurityGroup env),
    .unary "delete_security_group" (deleteSecurityGroup env), .unary "create_rule" (createRule env),
    .unary "delete_rule" (deleteRule env)]

def imageSummary (image : Val) : M Any :=
  build imageSummarySchema (serializeResource image ["id", "name", "status", "visibility", "size", "created_at"])

def createImage (payload : Any) : M Any := do
  let name ← payload.getattr "name"
  let diskFormat ← payload.getattr "disk_format"
  let containerFormat ← payload.getattr "container_format"
  let visibility ← payload.getattr "visibility"
  let tags ← payload.getattr "tags"
  let architecture ← payload.getattr "architecture"
  let minDisk ← payload.getattr "min_disk"
  let minRam ← payload.getattr "min_ram"
  let image ← call env "image" "create_image" []
    ([("name", name), ("disk_format", diskFormat.or (.str "qcow2")),
      ("container_format", containerFormat.or (.str "bare")), ("visibility", visibility.or (.str "private"))] ++
      ifTruthy "tags" tags ++ ifTruthy "architecture" architecture ++ ifTruthy "min_disk" minDisk ++
      ifTruthy "min_ram" minRam)
  cacheInvalidate env "images"
  imageSummary image.value

/- The one delete that does not look at the answer. -/
def deleteImage (imageId : Any) : M Any := do
  let _ ← call env "image" "delete_image" [imageId.toVal] ignoreMissing
  cacheInvalidate env "images"
  return .val .none

def imageService : ServiceClass where
  name := "ImageService"
  methods := [.unary "create_image" (createImage env), .unary "delete_image" (deleteImage env)]

def flavorSummary (flavor : Val) : M Any := do
  let id ← ofExcept (readAttr flavor "id")
  let name ← ofExcept (readAttr flavor "name")
  let vcpus ← ofExcept (readAttr flavor "vcpus")
  let ram ← ofExcept (readAttr flavor "ram")
  let disk ← ofExcept (readAttr flavor "disk")
  build flavorSummarySchema [("id", id), ("name", name), ("vcpus", vcpus), ("ram", ram), ("disk", disk)]

def createFlavor (payload : Any) : M Any := do
  let name ← payload.getattr "name"
  let ram ← payload.getattr "ram"
  let vcpus ← payload.getattr "vcpus"
  let disk ← payload.getattr "disk"
  let extraSpecs ← payload.getattr "extra_specs"
  match extraSpecs.or (.dict []) with
  | .dict extra =>
    let flavor ← call env "compute" "create_flavor" []
      ([("name", name), ("ram", ram), ("vcpus", vcpus), ("disk", disk)] ++ extra)
    flavorSummary flavor.value
  | _ => throw (.typeError "argument after ** must be a mapping")

def deleteFlavor (flavorId : Any) : M Any := do
  deleteOr404 env "compute" "delete_flavor" "Flavor not found" "flavor_not_found" flavorId
  return .val .none

def flavorService : ServiceClass where
  name := "FlavorService"
  methods := [.unary "create_flavor" (createFlavor env), .unary "delete_flavor" (deleteFlavor env)]

end Methods

section Raising
variable {α : Type}

theorem fault_raises (exc : Exc) : Raises (fault exc : M α) := raises_then (fun _ => raises_throw exc)

theorem getattr_raises {o : Obj} {name : String} (absent : o.getattr name = none) :
    Raises ((Any.model o).getattr name) := by
  simp only [Any.getattr, absent]
  exact fault_raises _

/-- A method that the class does not have. -/
theorem invoke_missing {cls : ServiceClass} {method : String} (args : M (List Any))
    (missing : cls.methods.find? (fun m => m.name == method) = none) : Raises (cls.invoke method args) := by
  simp only [ServiceClass.invoke, missing]
  exact fault_raises _

theorem invoke_arity {cls : ServiceClass} {method : String} {m : Method} {args : List Any}
    (found : cls.methods.find? (fun m => m.name == method) = some m) (mismatch : m.apply args = none) :
    Raises (cls.invoke method (pure args)) := by
  simp only [ServiceClass.invoke, found, pure_bind, mismatch]
  exact fault_raises _

end Raising

section Returns

/- Whatever the program returns is an instance of the model. -/
def Returns (schema : Schema) (m : M Any) : Prop :=
  ∀ w, wp m w (fun x _ => ∃ o, x = .model o ∧ o.Valid schema) (fun _ _ => True)

theorem build_returns (schema : Schema) (kwargs : List (String × Val)) : Returns schema (build schema kwargs) := by
  intro w
  simp only [build, validate, wp_bind]
  cases ok : schema.construct kwargs with
  | ok o => exact ⟨o, rfl, kwargs, ok⟩
  | error fields => trivial

theorem returns_then {α : Type} {schema : Schema} {m : M α} {f : α → M Any} (rest : ∀ a, Returns schema (f a)) :
    Returns schema (m >>= f) := by
  intro w
  exact wp_then (fun _ _ => trivial) rest

variable {env : Env} {payload : Any}

theorem createNetwork_returns : Returns networkSummarySchema (createNetwork env payload) :=
  returns_then fun _ => returns_then fun _ => returns_then fun _ => returns_then fun _ => returns_then fun _ =>
    returns_then fun _ => returns_then fun _ => build_returns _ _

theorem createRouter_returns : Returns routerSummarySchema (createRouter env payload) :=
  returns_then fun _ => returns_then fun _ => returns_then fun _ => returns_then fun _ => build_returns _ _

theorem createSecurityGroup_returns : Returns securityGroupSummarySchema (createSecurityGroup env payload) :=
  returns_then fun _ => returns_then fun _ => returns_then fun _ => returns_then fun _ => returns_then fun _ =>
    build_returns _ _

end Returns

section Drift
variable {env : Env} {payload : Obj}

/-- The image service reads an attribute that its request does not have. -/
theorem createImage_raises (valid : payload.Valid imageCreateRequestSchema) :
    Raises (createImage env (.model payload)) := by
  have undeclared : payload.getattr "tags" = none := getattr_undeclared valid (by decide)
  refine raises_then fun _ => raises_then fun _ => raises_then fun _ => raises_then fun _ => ?_
  exact raises_bind (getattr_raises undeclared) _

theorem createFlavor_raises (valid : payload.Valid flavorCreateRequestSchema) :
    Raises (createFlavor env (.model payload)) := by
  have undeclared : payload.getattr "extra_specs" = none := getattr_undeclared valid (by decide)
  refine raises_then fun _ => raises_then fun _ => raises_then fun _ => raises_then fun _ => ?_
  exact raises_bind (getattr_raises undeclared) _

end Drift

/- Every request of a run is answered, and every session of the database commits. -/
structure AllSucceed (env : Env) : Prop where
  ready : env.ready = true
  connects : ∀ n, env.connect n = none
  answers : ∀ n request, ∃ reply, (env.sdk n request).result = .ok reply
  writes : ∀ n, env.databaseUp n = true

/- What the SDK answers to the next request; a connection that is not there is made first. -/
def answer (env : Env) (w : World) (request : SdkCall) : Outcome :=
  env.sdk (if w.connected then w.tick else w.tick + 1) request

/- The SDK says that there was nothing to delete. -/
def Denies (outcome : Outcome) : Prop := ∃ reply, outcome.result = .ok reply ∧ reply.value = .bool false

section Deletes
variable {env : Env} {w : World}

theorem call_succeeds (succeeds : AllSucceed env) (service operation : String) (args : List Val)
    (kwargs : List (String × Val)) :
    wp (call env service operation args kwargs) w
      (fun reply t => (answer env w ⟨service, operation, args, kwargs⟩).result = .ok reply ∧
        t.tasks = w.tasks ∧ t.faults = w.faults)
      (fun _ _ => False) := by
  rw [call, wp_bind]
  have sent : connects env w = true := by simp [connects, succeeds.ready, succeeds.connects]
  refine wp_mono create_spec ?_ (fun _ _ unsent => absurd (sent.symm.trans unsent.1) (by simp))
  rintro _ _ ⟨_, rfl⟩
  obtain ⟨reply, result⟩ := succeeds.answers w.online.tick ⟨service, operation, args, kwargs⟩
  simp only [issue, elapse, ask, wp_bind, wp_get, wp_set, wp_pure, wp_modify, result]
  exact ⟨result, rfl, rfl⟩

/-- A delete goes through unless the SDK denies it, and touches neither tasks nor faults. -/
theorem deleteOr404_spec (succeeds : AllSucceed env) (service operation message code : String) (id : Any) :
    wp (deleteOr404 env service operation message code id) w
      (fun _ t => ¬ Denies (answer env w ⟨service, operation, [id.toVal], ignoreMissing⟩) ∧
        t.tasks = w.tasks ∧ t.faults = w.faults)
      (fun _ _ => Denies (answer env w ⟨service, operation, [id.toVal], ignoreMissing⟩)) := by
  rw [deleteOr404, wp_bind]
  refine wp_mono (call_succeeds succeeds _ _ _ _) ?_ (fun _ _ never => never.elim)
  rintro reply t ⟨result, kept⟩
  split
  · rename_i value
    exact ⟨reply, result, value⟩
  · rename_i other
    refine ⟨?_, kept⟩
    rintro ⟨denial, same, value⟩
    cases result.symm.trans same
    exact other value

end Deletes

end VMachine.OpenStack
