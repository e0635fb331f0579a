import VMachine.OpenStack.Endpoints
import VMachine.OpenStack.Requests

/-! The Kubernetes service: pods, deployments and services, each listed, read, created and deleted
in the same way, the manager that deploys a deployment together with a service, and the tracked
endpoints. The endpoints never name a namespace themselves. -/
namespace VMachine.Kubernetes
open Py Effects OpenStack

/- The process with its Kubernetes settings. `load` is what comes of loading the configuration of
the client library, `compose` of building a body with it, and `toInt` what `int` reads in a text. -/
structure Kube extends OpenStack.Env where
  kubernetesKubeconfigPath : String
  kubernetesInCluster : Bool
  kubernetesNamespace : String
  load : Nat → Option Exc
  compose : Nat → Val → Option Exc
  toInt : String → Option Int

def Kube.kubernetesReady (env : Kube) : Bool := env.kubernetesKubeconfigPath != "" || env.kubernetesInCluster

inductive Kind where
  | pod
  | deployment
  | service
  deriving Repr, DecidableEq

def kinds : List Kind := [.pod, .deployment, .service]

def Kind.word : Kind → String
  | .pod => "pod"
  | .deployment => "deployment"
  | .service => "service"

/- The class of the client library with the methods for the kind. -/
def Kind.api : Kind → String
  | .deployment => "AppsV1Api"
  | _ => "CoreV1Api"

def Kind.operation (kind : Kind) (verb : String) : String := verb ++ "_namespaced_" ++ kind.word

section Schemas

def bounded (least most : Int) (name : String) (type : Ty) (default : Option Val) : Field where
  name := name
  type := type
  default := default
  bound v := match v with
    | .int i => least ≤ i && i ≤ most
    | _ => true

def port (name : String) (type : Ty) (default : Option Val) : Field := bounded 1 65535 name type default

/- `Field(..., min_length=1, max_length=253)`. -/
def objectName : Field where
  name := "name"
  type := .str
  bound v := match v with
    | .str s => 1 ≤ s.length && s.length ≤ 253
    | _ => true

def containerSummarySchema : Schema where
  name := "ContainerSummary"
  fields := [required "name" .str, required "image" .str, defaulted "ports" (.list .int) (.list [])]

/- The containers are instances already. -/
def podSummarySchema : Schema where
  name := "PodSummary"
  fields := [required "name" .str, required "namespace" .str, required "status" .str, optionalStr "node",
    optionalStr "pod_ip", optionalStr "created", defaulted "containers" (.list .any) (.list []),
    defaulted "labels" (.dict .str) (.dict []), optionalStr "operation_task_id"]

def podCreateRequestSchema : Schema where
  name := "PodCreateRequest"
  fields := [objectName, required "image" .str, defaulted "namespace" .str (.str "default"),
    port "port" (.optional .int) (some .none), defaulted "labels" (.dict .str) (.dict []),
    bounded 1 100 "replicas" .int (some (.int 1))]

def deploymentSummarySchema : Schema where
  name := "DeploymentSummary"
  fields := [required "name" .str, required "namespace" .str, required "replicas" .int, required "ready_replicas" .int,
    required "available_replicas" .int, defaulted "strategy" .str (.str "RollingUpdate"), optionalStr "created",
    optionalStr "operation_task_id"]

def deploymentCreateRequestSchema : Schema where
  name := "DeploymentCreateRequest"
  fields := [objectName, required "image" .str, defaulted "namespace" .str (.str "default"),
    bounded 1 100 "replicas" .int (some (.int 1)), port "port" (.optional .int) (some .none),
    defaulted "labels" (.dict .str) (.dict [])]

def deploymentScaleRequestSchema : Schema where
  name := "DeploymentScaleRequest"
  fields := [bounded 0 1000 "replicas" .int none]

def serviceSummarySchema : Schema where
  name := "ServiceSummary"
  fields := [required "name" .str, required "namespace" .str, defaulted "type" .str (.str "ClusterIP"),
    optionalStr "cluster_ip", defaulted "ports" (.list (.dict .any)) (.list []), optionalStr "created",
    optionalStr "operation_task_id"]

def serviceCreateRequestSchema : Schema where
  name := "ServiceCreateRequest"
  fields := [objectName, defaulted "namespace" .str (.str "default"), defaulted "type" .str (.str "ClusterIP"),
    port "port" .int none, port "target_port" (.optional .int) (some .none),
    defaulted "selector" (.dict .str) (.dict [])]

def clusterInfoSchema : Schema where
  name := "K8sClusterInfo"
  fields := [required "node_count" .int, defaulted "namespaces" (.list .str) (.list []), optionalStr "version"]

end Schemas

section Serializers
variable (env : Kube)

/- What a `for` loop goes through. -/
def elements : Val → Except Exc (List Val)
  | .list vs => .ok vs
  | .dict kvs => .ok (kvs.map (fun kv => .str kv.1))
  | .str s => .ok (s.toList.map (fun c => .str c.toString))
  | v => .error (.typeError ("'" ++ v.type ++ "' object is not iterable"))

/- `int(v)`. -/
def int : Val → Except Exc Int
  | .int i => .ok i
  | .bool b => .ok (if b then 1 else 0)
  | .str s =>
    match env.toInt s with
    | some i => .ok i
    | none => .error (.foreign "ValueError" ("invalid literal for int() with base 10: '" ++ s ++ "'"))
  | v => .error (.typeError
      ("int() argument must be a string, a bytes-like object or a real number, not '" ++ v.type ++ "'"))

/- A timestamp is given as its text. -/
def createdStr (metadata : Val) : Val :=
  let created := attrOr metadata "creation_timestamp" .none
  if created.truthy then .str created.text else .none

/- A port that has no number of its own is left out. -/
def containerPort (p : Val) : Except Exc (Option Val) :=
  match (attrOr p "container_port" .none).or (attrOr p "port" .none) with
  | .none => .ok none
  | cp => return some (.int (← int env cp))

def containerSummary (c : Val) : Except Exc Val := do
  let raw ← elements (((attrOr c "port" .none).or (attrOr c "ports" (.list []))).or (.list []))
  let ports ← raw.mapM (containerPort env)
  let summary ← validate containerSummarySchema
    [("name", attrOr c "name" (.str "")), ("image", attrOr c "image" (.str "")), ("ports", .list (ports.filterMap id))]
  return .dict summary.attrs

/- `dict(labels)`. -/
def toDict : Val → Except Exc Val
  | .dict kvs => .ok (.dict kvs)
  | v => .error (.typeError ("'" ++ v.type ++ "' object is not iterable"))

def serializePod (pod : Val) : Except Exc Obj := do
  let metadata := attrOr pod "metadata" .none
  let spec := attrOr pod "spec" .none
  let status := attrOr pod "status" .none
  let raw ← elements ((attrOr spec "containers" (.list [])).or (.list []))
  let containers ← raw.mapM (containerSummary env)
  let labels ← toDict ((attrOr metadata "labels" .none).or (.dict []))
  validate podSummarySchema
    [("name", attrOr metadata "name" (.str "")), ("namespace", attrOr metadata "namespace" (.str "")),
      ("status", attrOr status "phase" (.str "Unknown")), ("node", attrOr spec "node_name" .none),
      ("pod_ip", attrOr status "pod_ip" .none), ("created", createdStr metadata), ("containers", .list containers),
      ("labels", labels)]

def serializeDeployment (dep : Val) : Except Exc Obj :=
  let metadata := attrOr dep "metadata" .none
  let spec := attrOr dep "spec" .none
  let status := attrOr dep "status" .none
  let strategyObj := attrOr spec "strategy" .none
  let strategy := if strategyObj.truthy
    then (attrOr strategyObj "type" (.str "RollingUpdate")).or (.str "RollingUpdate") else .str "RollingUpdate"
  validate deploymentSummarySchema
    [("name", attrOr metadata "name" (.str "")), ("namespace", attrOr metadata "namespace" (.str "")),
      ("replicas", (attrOr spec "replicas" (.int 0)).or (.int 0)),
      ("ready_replicas", (attrOr status "ready_replicas" (.int 0)).or (.int 0)),
      ("available_replicas", (attrOr status "available_replicas" (.int 0)).or (.int 0)), ("strategy", strategy),
      ("created", createdStr metadata)]

def serializeService (svc : Val) : Except Exc Obj := do
  let metadata := attrOr svc "metadata" .none
  let spec := attrOr svc "spec" .none
  let ports ← elements ((attrOr spec "ports" (.list [])).or (.list []))
  validate serviceSummarySchema
    [("name", attrOr metadata "name" (.str "")), ("namespace", attrOr metadata "namespace" (.str "")),
      ("type", (attrOr spec "type" (.str "ClusterIP")).or (.str "ClusterIP")),
      ("cluster_ip", attrOr spec "cluster_ip" .none),
      ("ports", .list (ports.map (fun p => .dict [("port", attrOr p "port" .none),
        ("target_port", .str (attrOr p "target_port" (.str "")).text),
        ("protocol", attrOr p "protocol" (.str "TCP"))]))), ("created", createdStr metadata)]

end Serializers

section Client
variable (env : Kube)

/- An exception of the class AppException or of a class below it. -/
def isAppException (exc : Exc) : Bool := exc.statusCode.isSome

def kubernetesIntegrationException (message : String) : Exc := .appException message 502 "kubernetes_error"

/- `_get_api`. The configuration is loaded each time. -/
def getApi (api : String) : M Unit := do
  if env.kubernetesReady then
    match env.load (← ask) with
    | none => return
    | some exc =>
      if isAppException exc then throw exc
      else throw (.appException ("Failed to initialize Kubernetes " ++ api ++ ": " ++ exc.message) 503
        "kubernetes_client_error")
  else
    throw (.appException
      "Kubernetes settings are incomplete. Set KUBERNETES_KUBECONFIG_PATH or KUBERNETES_IN_CLUSTER." 503
      "kubernetes_not_configured")

/- The import of the client library and the construction of a body. -/
def compose (body : Val) : M Unit := do
  match env.compose (← ask) body with
  | none => return
  | some exc => throw exc

def request (call : SdkCall) : M Reply := do
  let outcome ← issue env.toEnv call
  elapse outcome.took
  OpenStack.ofExcept outcome.result

/- The `try` around every method: an AppException goes on as it is. -/
def guarded {α : Type} (what : String) (body : M α) : M α :=
  tryCatch body (fun exc =>
    if isAppException exc then throw exc
    else throw (kubernetesIntegrationException ("Failed to " ++ what ++ ": " ++ exc.message)))

end Client

section Methods
variable (env : Kube)

/- `namespace or settings.kubernetes_namespace`. -/
def resolve (ns : Val) : Val := ns.or (.str env.kubernetesNamespace)

def listCall (kind : Kind) (ns : Val) : SdkCall := ⟨kind.api, kind.operation "list", [], [("namespace", ns)]⟩

def readCall (kind : Kind) (name ns : Val) : SdkCall :=
  ⟨kind.api, kind.operation "read", [], [("name", name), ("namespace", ns)]⟩

def createCall (kind : Kind) (ns body : Val) : SdkCall :=
  ⟨kind.api, kind.operation "create", [], [("namespace", ns), ("body", body)]⟩

def deleteCall (kind : Kind) (name ns : Val) : SdkCall :=
  ⟨kind.api, kind.operation "delete", [], [("name", name), ("namespace", ns)]⟩

def listOf (kind : Kind) (serialize : Val → Except Exc Obj) (ns : Val) : M (List Obj) :=
  guarded ("list " ++ kind.word ++ "s") (do
    getApi env kind.api
    let resp ← request env (listCall kind (resolve env ns))
    let items ← OpenStack.ofExcept (readAttr resp.value "items")
    let items ← OpenStack.ofExcept (elements items)
    OpenStack.ofExcept (items.mapM serialize))

def getOf (kind : Kind) (serialize : Val → Except Exc Obj) (name ns : Val) : M Obj :=
  guarded ("get " ++ kind.word ++ " '" ++ name.text ++ "'") (do
    getApi env kind.api
    let found ← request env (readCall kind name (resolve env ns))
    OpenStack.ofExcept (serialize found.value))

def createOf (kind : Kind) (serialize : Val → Except Exc Obj) (payload : Obj) (body : Val) : M Any :=
  guarded ("create " ++ kind.word ++ " '" ++ (payload.field "name").text ++ "'") (do
    compose env body
    getApi env kind.api
    let made ← request env (createCall kind (resolve env (payload.field "namespace")) body)
    return .model (← OpenStack.ofExcept (serialize made.value)))

def deleteOf (kind : Kind) (name ns : Val) : M Any :=
  guarded ("delete " ++ kind.word ++ " '" ++ name.text ++ "'") (do
    getApi env kind.api
    let _ ← request env (deleteCall kind name (resolve env ns))
    return .val .none)

def metadataOf (payload : Obj) (labels : List (String × Val)) : Val :=
  .dict ([("name", payload.field "name"), ("namespace", resolve env (payload.field "namespace"))] ++ labels)

/- `payload.labels or {"app": payload.name}`. -/
def labelsOf (payload : Obj) (name : String) : Val := (payload.field name).or (.dict [("app", payload.field "name")])

def containerOf (payload : Obj) : Val :=
  .dict [("name", payload.field "name"), ("image", payload.field "image"),
    ("ports", if (payload.field "port").truthy then .list [.dict [("container_port", payload.field "port")]] else .none)]

def podBody (payload : Obj) : Val :=
  .dict [("metadata", metadataOf env payload [("labels", labelsOf payload "labels")]),
    ("spec", .dict [("containers", .list [containerOf payload])])]

def deploymentBody (payload : Obj) : Val :=
  .dict [("metadata", metadataOf env payload [("labels", labelsOf payload "labels")]),
    ("spec", .dict [("replicas", payload.field "replicas"),
      ("selector", .dict [("match_labels", labelsOf payload "labels")]),
      ("template", .dict [("metadata", .dict [("labels", labelsOf payload "labels")]),
        ("spec", .dict [("containers", .list [containerOf payload])])])])]

def serviceBody (payload : Obj) : Val :=
  .dict [("metadata", metadataOf env payload []),
    ("spec", .dict [("type", payload.field "type"),
      ("ports", .list [.dict [("port", payload.field "port"),
        ("target_port", (payload.field "target_port").or (payload.field "port"))]]),
      ("selector", labelsOf payload "selector")])]

def listPods (ns : Val) : M (List Obj) := listOf env .pod (serializePod env) ns

def getPod (name ns : Val) : M Obj := getOf env .pod (serializePod env) name ns

def createPod (payload : Obj) : M Any := createOf env .pod (serializePod env) payload (podBody env payload)

def deletePod (name ns : Val) : M Any := deleteOf env .pod name ns

def listDeployments (ns : Val) : M (List Obj) := listOf env .deployment serializeDeployment ns

def getDeployment (name ns : Val) : M Obj := getOf env .deployment serializeDeployment name ns

def createDeployment (payload : Obj) : M Any :=
  createOf env .deployment serializeDeployment payload (deploymentBody env payload)

def deleteDeployment (name ns : Val) : M Any := deleteOf env .deployment name ns

def patchScaleCall (name ns body : Val) : SdkCall :=
  ⟨"AppsV1Api", "patch_namespaced_deployment_scale", [], [("name", name), ("namespace", ns), ("body", body)]⟩

/- Two requests: the scale is patched, and the deployment is read again. -/
def scaleDeployment (name : Val) (payload : Obj) (ns : Val) : M Any :=
  guarded ("scale deployment '" ++ name.text ++ "'") (do
    let body := .dict [("spec", .dict [("replicas", payload.field "replicas")])]
    compose env body
    getApi env "AppsV1Api"
    let _ ← request env (patchScaleCall name (resolve env ns) body)
    let dep ← request env (readCall .deployment name (resolve env ns))
    return .model (← OpenStack.ofExcept (serializeDeployment dep.value)))

def listServices (ns : Val) : M (List Obj) := listOf env .service serializeService ns

def getService (name ns : Val) : M Obj := getOf env .service serializeService name ns

def createService (payload : Obj) : M Any := createOf env .service serializeService payload (serviceBody env payload)

def deleteService (name ns : Val) : M Any := deleteOf env .service name ns

/- `len(v)`. -/
def len : Val → Except Exc Int
  | .list vs => .ok vs.length
  | .dict kvs => .ok kvs.length
  | .str s => .ok s.length
  | v => .error (.typeError ("object of type '" ++ v.type ++ "' has no len()"))

def getClusterInfo : M Obj :=
  guarded "get cluster info" (do
    getApi env "CoreV1Api"
    let nodes ← request env ⟨"CoreV1Api", "list_node", [], []⟩
    let namespaces ← request env ⟨"CoreV1Api", "list_namespace", [], []⟩
    let versionInfo ← request env ⟨"VersionApi", "get_code", [], []⟩
    let serverVersion ← OpenStack.ofExcept (readAttr versionInfo.value "git_version")
    let nodeItems ← OpenStack.ofExcept (readAttr nodes.value "items")
    let nodeCount ← OpenStack.ofExcept (len nodeItems)
    let items ← OpenStack.ofExcept (readAttr namespaces.value "items")
    let items ← OpenStack.ofExcept (elements items)
    let names ← OpenStack.ofExcept (items.mapM (fun ns => do readAttr (← readAttr ns "metadata") "name"))
    OpenStack.ofExcept (validate clusterInfoSchema
      [("node_count", .int nodeCount), ("namespaces", .list names), ("version", serverVersion)]))

/- `KubernetesManager`. Both requests are built without a namespace. -/
def deployWorkload (name image : String) (replicas : Int) (port : Val) : M (Any × Any) := do
  let payload ← OpenStack.ofExcept (validate deploymentCreateRequestSchema
    [("name", .str name), ("image", .str image), ("replicas", .int replicas), ("port", port)])
  let dep ← createDeployment env payload
  let payload ← OpenStack.ofExcept (validate serviceCreateRequestSchema
    [("name", .str name), ("port", port.or (.int 80)), ("selector", .dict [("app", .str name)])])
  let svc ← createService env payload
  return (dep, svc)

def removeWorkload (name : String) : M Unit := do
  let _ ← deleteService env (.str name) .none
  let _ ← deleteDeployment env (.str name) .none
  return

end Methods

namespace Endpoints
variable (env : Kube)

def createPod (payload : Obj) : M Response :=
  OpenStack.Endpoints.trackedCreate env.toEnv "create_pod" "k8s_pod" (payload.field "name") .none "name"
    (Kubernetes.createPod env payload)

def deletePod (name : String) : M Response :=
  OpenStack.Endpoints.trackedAction env.toEnv "delete_pod" "k8s_pod" name (Kubernetes.deletePod env (.str name) .none)

def createDeployment (payload : Obj) : M Response :=
  OpenStack.Endpoints.trackedCreate env.toEnv "create_deployment" "k8s_deployment" (payload.field "name") .none "name"
    (Kubernetes.createDeployment env payload)

def deleteDeployment (name : String) : M Response :=
  OpenStack.Endpoints.trackedAction env.toEnv "delete_deployment" "k8s_deployment" name
    (Kubernetes.deleteDeployment env (.str name) .none)

def scaleDeployment (name : String) (payload : Obj) : M Response :=
  OpenStack.Endpoints.trackedCreate env.toEnv "scale_deployment" "k8s_deployment" (.str name) (.str name) "name"
    (Kubernetes.scaleDeployment env (.str name) payload .none)

def createService (payload : Obj) : M Response :=
  OpenStack.Endpoints.trackedCreate env.toEnv "create_service" "k8s_service" (payload.field "name") .none "name"
    (Kubernetes.createService env payload)

def deleteService (name : String) : M Response :=
  OpenStack.Endpoints.trackedAction env.toEnv "delete_service" "k8s_service" name
    (Kubernetes.deleteService env (.str name) .none)

end Endpoints

end VMachine.Kubernetes
