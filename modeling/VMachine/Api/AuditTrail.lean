import VMachine.Lib.Paths

/-! The resource that the audit trail names. `AuditMiddleware` sees the path of a request and not
the route that it is for; it takes the last part of the path that is not one of its words. -/
namespace VMachine.Api
open Paths

/- The routers, each with the templates that its endpoints are registered under. Two endpoints
may share one. -/
section Routers

/- `include_router(router, prefix=..)` -/
def included (pre : List Segment) (router : List (List Segment)) : List (List Segment) :=
  router.map (fun path => pre ++ path)

def auditRouter : List (List Segment) :=
  [["logs"]]

def healthRouter : List (List Segment) :=
  [["health"], ["health", "openstack"], ["health", "detailed"]]

def authRouter : List (List Segment) :=
  [["config"], ["validate"], ["session"], ["endpoints"]]

def tenantsRouter : List (List Segment) :=
  [["projects"], ["projects", .param "project_id"]]

def computeRouter : List (List Segment) :=
  [["servers"], ["servers", .param "server_id"], ["servers", .param "server_id", "actions"],
    ["servers", .param "server_id", "volumes"],
    ["servers", .param "server_id", "volumes", .param "volume_id"],
    ["servers", .param "server_id", "resize"], ["servers", .param "server_id", "resize", "action"],
    ["servers", .param "server_id", "snapshots"]]

def flavorsRouter : List (List Segment) :=
  [[], [.param "flavor_id"]]

def imagesRouter : List (List Segment) :=
  [[], [.param "image_id"]]

def keypairsRouter : List (List Segment) :=
  [[], [.param "keypair_name"]]

def networksRouter : List (List Segment) :=
  [[], [.param "network_id"]]

def routersRouter : List (List Segment) :=
  [[], [.param "router_id"], [.param "router_id", "interfaces"],
    [.param "router_id", "interfaces", .param "subnet_id"]]

def securityGroupsRouter : List (List Segment) :=
  [[], [.param "security_group_id"], [.param "security_group_id", "rules"], ["rules", .param "rule_id"]]

def storageRouter : List (List Segment) :=
  [["pools"], ["pools", .param "pool_id"]]

def volumesRouter : List (List Segment) :=
  [[], [.param "volume_id"]]

def clustersRouter : List (List Segment) :=
  [[], [.param "cluster_id"], [.param "cluster_id", "deploy"]]

def migrationsRouter : List (List Segment) :=
  [[], [.param "migration_id"], [.param "migration_id", "progress"]]

def operationsRouter : List (List Segment) :=
  [["tasks"], ["tasks", .param "task_id"], ["scaling-policies"],
    ["scaling-policies", .param "policy_id"], ["scheduled-tasks"], ["scheduled-tasks", .param "task_id"]]

def kubernetesRouter : List (List Segment) :=
  [["pods"], ["pods", .param "name"], ["deployments"], ["deployments", .param "name"],
    ["deployments", .param "name", "scale"], ["services"], ["services", .param "name"], ["cluster"]]

def monitoringRouter : List (List Segment) :=
  [["metrics"], ["metrics", "latest"], ["hypervisors"], ["projects"], ["alerts"],
    ["alerts", .param "alert_id", "resolve"], ["cache-stats"], ["dashboard"]]

def vmwareInventoryRouter : List (List Segment) :=
  [["vms"], ["vms", .param "vm_id"], ["datastores"], ["networks"], ["sync"]]

def vmwareAssessmentRouter : List (List Segment) :=
  [["assess"], ["assess", .param "vm_id", "compatibility"], ["assess", .param "vm_id", "mapping"],
    ["plan"], ["assessments"], ["assessment", .param "assessment_id"], ["plans"],
    ["plan", .param "plan_id"], ["assess", "parallel"], ["assess", "parallel", .param "task_id"]]

def vmLifecycleRouter : List (List Segment) :=
  [["servers"], ["servers", .param "server_id"], ["servers", .param "server_id", "start"],
    ["servers", .param "server_id", "stop"], ["servers", .param "server_id", "reboot"],
    ["servers", "active", "count"]]

def apiRouter : List (List Segment) :=
  included ["audit"] auditRouter ++
    included [] healthRouter ++
    included ["auth"] authRouter ++
    included ["tenants"] tenantsRouter ++
    included ["compute"] computeRouter ++
    included ["flavors"] flavorsRouter ++
    included ["images"] imagesRouter ++
    included ["keypairs"] keypairsRouter ++
    included ["networks"] networksRouter ++
    included ["routers"] routersRouter ++
    included ["security-groups"] securityGroupsRouter ++
    included ["storage"] storageRouter ++
    included ["volumes"] volumesRouter ++
    included ["clusters"] clustersRouter ++
    included ["migrations"] migrationsRouter ++
    included ["operations"] operationsRouter ++
    included ["k8s"] kubernetesRouter ++
    included ["monitoring"] monitoringRouter ++
    included ["vmware"] vmwareInventoryRouter ++
    included ["vmware"] vmwareAssessmentRouter ++
    included ["openstack"] vmLifecycleRouter

/- Everything under /api/v1. -/
def routes : List (List Segment) := included ["api", "v1"] apiRouter

end Routers

/- The words that are not taken for ids. -/
def nonResource : List String :=
  ["api", "v1", "auth", "compute", "networks", "volumes", "images", "flavors", "tenants", "health", "servers", "projects",
    "session", "endpoints", "config", "validate", "actions"]

def unreserved (part : String) : Bool := decide (part ∉ nonResource)

/- `_infer_resource_id`. -/
def inferResourceId (path : String) : Option String := (split path).reverse.find? unreserved

/- What a request has for the parameters of its route: ids outside the reserved words. -/
structure Ids where
  value : String → Part
  outside : ∀ name, unreserved (value name).text = true

/- The audit entry of the request has the value of the last parameter, or none if there is none. -/
def Named (route : List Segment) (ids : Ids) : Prop :=
  inferResourceId (url (fill ids.value route)) = lastValue ids.value route

/- No word behind the last parameter can be taken for an id. -/
def Closed (route : List Segment) : Prop := ∀ word ∈ trailingWords route, word ∈ nonResource

instance (route : List Segment) : Decidable (Closed route) := inferInstanceAs (Decidable (∀ word ∈ _, _))

section Naming
variable {route : List Segment}

theorem routes_fit : routes.all (fun route => route.all Segment.fits) = true := by decide +kernel

/-- The last unreserved word behind the last parameter is found, or else the parameter. -/
theorem inferResourceId_url (registered : route ∈ routes) (ids : Ids) :
    inferResourceId (url (fill ids.value route)) =
      ((trailingWords route).find? unreserved).or (lastValue ids.value route) := by
  rw [inferResourceId, split_url (fill_parts ids.value (List.all_eq_true.mp routes_fit route registered))]
  exact find?_fill_reverse ids.value ids.outside route

theorem closed_iff : Closed route ↔ (trailingWords route).find? unreserved = none := by
  simp [Closed, unreserved, List.find?_eq_none]

/-- The right resource is named if there is no such word, or if it happens to be the id. -/
theorem named_iff (registered : route ∈ routes) (ids : Ids) :
    Named route ids ↔ Closed route ∨ (trailingWords route).find? unreserved = lastValue ids.value route := by
  rw [Named, inferResourceId_url registered, closed_iff]
  cases found : (trailingWords route).find? unreserved with
  | none => simp
  | some word => simp

/- A request that has one id everywhere. -/
def oneId (id : String) (one : isPart id = true) (outside : unreserved id = true) : Ids :=
  ⟨fun _ => ⟨id, one⟩, fun _ => outside⟩

def firstServer : Ids := oneId "srv-1" (by decide +kernel) (by decide +kernel)

def secondServer : Ids := oneId "srv-2" (by decide +kernel) (by decide +kernel)

/-- For a route, the right resource is named in every request exactly if no word behind its last
parameter is unreserved. -/
theorem always_named_iff (registered : route ∈ routes) : (∀ ids, Named route ids) ↔ Closed route := by
  constructor
  · intro always
    by_contra opened
    have first := ((named_iff registered firstServer).mp (always _)).resolve_left opened
    have second := ((named_iff registered secondServer).mp (always _)).resolve_left opened
    cases found : (trailingWords route).find? unreserved with
    | none => exact opened (closed_iff.mpr found)
    | some word =>
      rw [found] at first second
      have one := firstValue_const first.symm
      have two := firstValue_const second.symm
      rw [one] at two
      revert two
      decide +kernel
  · intro closed ids
    exact (named_iff registered ids).mpr (.inl closed)

end Naming

/- More than half of the templates are open. -/
example : routes.length = 87 ∧ (routes.filter (fun route => decide (¬ Closed route))).length = 48 := by decide +kernel

/-- The audit trail names the resource of a request exactly if all words behind the last parameter
of its route are reserved, or the last one that is not equals the id; and so it does in every
request of a route exactly if they are all reserved. -/
theorem audit_names_resource_iff (registered : route ∈ routes) :
    (∀ ids, Named route ids ↔
      Closed route ∨ (trailingWords route).find? unreserved = lastValue ids.value route) ∧
    ((∀ ids, Named route ids) ↔ Closed route) :=
  ⟨named_iff registered, always_named_iff registered⟩

theorem deletion_named : inferResourceId "/api/v1/compute/servers/srv-1" = some "srv-1" := by
  have registered : (["api", "v1", "compute", "servers", .param "server_id"] : List Segment) ∈ routes := by decide +kernel
  have closed : Closed ["api", "v1", "compute", "servers", .param "server_id"] := by decide +kernel
  exact (audit_names_resource_iff registered).2.mpr closed firstServer

/- The law, for all routes and all ids. -/
def AuditNamesResource : Prop := ∀ route ∈ routes, ∀ ids, Named route ids

theorem start_named_as_resource : ¬ AuditNamesResource := by
  intro claim
  have registered : (["api", "v1", "openstack", "servers", .param "server_id", "start"] : List Segment) ∈ routes := by decide +kernel
  have named := claim _ registered firstServer
  rw [named_iff registered] at named
  revert named
  decide +kernel

end VMachine.Api
