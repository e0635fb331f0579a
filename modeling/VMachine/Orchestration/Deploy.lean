import VMachine.OpenStack.Requests
import VMachine.OpenStack.Tasks
import VMachine.Orchestration.Clusters

/-! `ClusterService.batch_deploy` and its endpoint. The instances are created one after the other,
and the first exception ends the loop without being raised: the caller is told how many there are
and not that anything has failed. -/
namespace VMachine.Orchestration
open OpenStack Database Tables Py Effects Traces

structure BatchDeployRequest where
  templateName : String
  instanceCount : Nat
  imageId : String
  flavorId : String
  networkId : String
  keyName : Option String := none
  availabilityZone : Option String := none
  nameLength : 1 ≤ templateName.length ∧ templateName.length ≤ 255
  countBounds : 1 ≤ instanceCount ∧ instanceCount ≤ 100

structure BatchDeployResponse where
  templateName : String
  requested : Nat
  created : Nat
  operationTaskId : Option Nat := none
  deriving Repr, DecidableEq

def clusterNotFound : Exc := .appException "Cluster not found" 404 "cluster_not_found"

/- The object `Req()` of the instance with that index. -/
def instanceRequest (clusterId : String) (payload : BatchDeployRequest) (i : Nat) : ServerCreateRequest where
  name := payload.templateName ++ "-" ++ toString (i + 1)
  imageId := payload.imageId
  flavorId := payload.flavorId
  networkId := payload.networkId
  keyName := payload.keyName
  availabilityZone := payload.availabilityZone
  metadata := [("cluster_id", .str clusterId), ("template", .str payload.templateName)]
  wait := false

section Service
variable (env : Env) (compute : Bool) (clusterId : String) (payload : BatchDeployRequest)

/- One turn of the loop: whether an instance is counted, or none for `break`. -/
def deployInstance (i : Nat) : M (Option Bool) :=
  tryCatch
    (if compute then do
      let _ ← createServer env (instanceRequest clusterId payload i)
      return some true
    else return some false)
    (fun _ => return none)

/- The loop, with the number of turns that are left. -/
def deployFrom : Nat → Nat → Nat → M Nat
  | 0, _, created => return created
  | turns + 1, i, created => do
    match ← deployInstance env compute clusterId payload i with
    | some counted => deployFrom turns (i + 1) (if counted then created + 1 else created)
    | none => return created

/- `session.get(ClusterDeployment, cluster_id)`, or 404. -/
def getClusterRow {b : Backend} (clusters : ClusterTable b) : M ClusterDeployment := do
  let n ← ask
  if env.databaseUp n then
    match clusters.rows.find? (fun row => row.id == clusterId) with
    | some cluster => return cluster
    | none => throw clusterNotFound
  else throw databaseError

def batchDeploy {b : Backend} (clusters : ClusterTable b) : M BatchDeployResponse := do
  let _ ← getClusterRow env clusterId clusters
  let created ← deployFrom env compute clusterId payload payload.instanceCount 0 0
  return ⟨payload.templateName, payload.instanceCount, created, none⟩

/- `POST /clusters/id/deploy`. -/
def deployCluster {b : Backend} (clusters : ClusterTable b) : M BatchDeployResponse :=
  tracked env "batch_deploy" "cluster" (.str clusterId) .none (fun task => do
    let result ← batchDeploy env compute clusterId payload clusters
    updateTask env task .succeeded .none none
    return { result with operationTaskId := some task })

end Service

/- The requests for the first instances, all of them answered. -/
def deployedRequests (clusterId : String) (payload : BatchDeployRequest) (count : Nat) : List SdkCall :=
  (List.range count).flatMap (fun i => creationRequests (instanceRequest clusterId payload i))

/- What a deployment that has counted `created` instances has asked for: all that they need, and
for the next one as much as it took to fail. -/
def Accounted (clusterId : String) (payload : BatchDeployRequest) (created : Nat) (requests : List SdkCall) : Prop :=
  created ≤ payload.instanceCount ∧ ∃ broken, requests = deployedRequests clusterId payload created ++ broken ∧
    (created = payload.instanceCount → broken = []) ∧
    broken <+: creationRequests (instanceRequest clusterId payload created)

section Loop
variable {env : Env} {clusterId : String} {payload : BatchDeployRequest} {w : World}

theorem deployedRequests_succ (count : Nat) : deployedRequests clusterId payload (count + 1) =
    deployedRequests clusterId payload count ++ creationRequests (instanceRequest clusterId payload count) := by
  simp [deployedRequests, List.range_succ]

/-- An instance that is counted has been asked for in full, and one that fails up to there. -/
theorem deployInstance_spec (i : Nat) :
    wp (deployInstance env true clusterId payload i) w
      (fun turn t => match turn with
        | some counted => counted = true ∧ t.log = w.log ++ creationRequests (instanceRequest clusterId payload i)
        | none => ∃ broken, broken <+: creationRequests (instanceRequest clusterId payload i) ∧ t.log = w.log ++ broken)
      (fun _ _ => False) := by
  unfold deployInstance
  simp only [if_true, wp_tryCatch, wp_bind, wp_pure]
  refine wp_mono (createServer_emits rfl w) ?_ ?_
  · intro _ t whole
    exact ⟨trivial, whole⟩
  · intro _ t part
    exact part

/-- By induction on the turns that are left: the account of what has been created goes on. -/
theorem deployFrom_spec (turns i : Nat) {before : List SdkCall} (total : i + turns = payload.instanceCount)
    (so : w.log = before ++ deployedRequests clusterId payload i) :
    wp (deployFrom env true clusterId payload turns i i) w
      (fun created t => ∃ requests, t.log = before ++ requests ∧ Accounted clusterId payload created requests)
      (fun _ _ => False) := by
  induction turns generalizing i w with
  | zero =>
    have all : i = payload.instanceCount := total
    refine ⟨_, so, by omega, [], (List.append_nil _).symm, fun _ => rfl, List.nil_prefix⟩
  | succ turns ih =>
    rw [deployFrom, wp_bind]
    refine wp_mono (deployInstance_spec i) ?_ (fun _ _ never => never)
    rintro turn t after
    cases turn with
    | some counted =>
      obtain ⟨rfl, whole⟩ := after
      refine ih (i + 1) (by omega) ?_
      rw [whole, so, deployedRequests_succ, List.append_assoc]
    | none =>
      obtain ⟨broken, part, stopped⟩ := after
      refine ⟨_, by rw [stopped, so, List.append_assoc], by omega, broken, rfl, ?_, part⟩
      intro all
      omega

end Loop

/- The requests that are for a server. -/
def serversAsked (requests : List SdkCall) : List SdkCall :=
  requests.filter (fun request => decide (request.operation = "create_server"))

section Asking
variable {clusterId : String} {payload : BatchDeployRequest}

theorem serversAsked_keypair (keyName : Option String) : serversAsked (keypairRequests keyName) = [] := by
  unfold keypairRequests
  cases nonempty keyName with
  | some name => simp [serversAsked]
  | none => rfl

/-- Of what an instance needs, only the last request is for the server. -/
theorem serversAsked_creation (request : ServerCreateRequest) :
    serversAsked (creationRequests request) = [serverRequestOf request] := by
  have keypair := serversAsked_keypair request.keyName
  unfold serversAsked at keypair
  simp [serversAsked, creationRequests, List.filter_append, keypair, serverRequestOf]

theorem serversAsked_part {request : ServerCreateRequest} {broken : List SdkCall}
    (part : broken <+: creationRequests request) :
    serversAsked broken = [] ∨ serversAsked broken = [serverRequestOf request] := by
  have inside := (part.filter (fun call => decide (call.operation = "create_server")))
  have whole := serversAsked_creation request
  unfold serversAsked at whole ⊢
  rw [whole] at inside
  cases asked : broken.filter (fun call => decide (call.operation = "create_server")) with
  | nil => exact .inl rfl
  | cons first rest =>
    rw [asked, List.cons_prefix_cons, List.prefix_nil] at inside
    obtain ⟨rfl, rfl⟩ := inside
    exact .inr rfl

theorem serversAsked_deployed (count : Nat) : serversAsked (deployedRequests clusterId payload count) =
    (List.range count).map (fun i => serverRequestOf (instanceRequest clusterId payload i)) := by
  induction count with
  | zero => rfl
  | succ count ih =>
    have last := serversAsked_creation (instanceRequest clusterId payload count)
    unfold serversAsked at ih last ⊢
    rw [deployedRequests_succ, List.filter_append, ih, last, List.range_succ, List.map_append]
    rfl

/-- The servers that are asked for are the first ones, and at most one is not counted. -/
theorem Accounted.servers {created : Nat} {requests : List SdkCall} (accounted : Accounted clusterId payload created requests) :
    ∃ asked, created ≤ asked ∧ asked ≤ created + 1 ∧ asked ≤ payload.instanceCount ∧ serversAsked requests =
      (List.range asked).map (fun i => serverRequestOf (instanceRequest clusterId payload i)) := by
  obtain ⟨bound, broken, rfl, complete, part⟩ := accounted
  have split : serversAsked (deployedRequests clusterId payload created ++ broken) =
      (List.range created).map (fun i => serverRequestOf (instanceRequest clusterId payload i)) ++ serversAsked broken := by
    rw [← serversAsked_deployed]
    exact List.filter_append _ _
  rw [split]
  obtain none | one := serversAsked_part part
  · exact ⟨created, le_refl _, Nat.le_succ _, bound, by rw [none, List.append_nil]⟩
  · have short : created ≠ payload.instanceCount := by
      intro all
      rw [complete all] at one
      contradiction
    refine ⟨created + 1, Nat.le_succ _, le_refl _, by omega, ?_⟩
    rw [one, List.range_succ, List.map_append]
    rfl

end Asking

section Outcome
variable {b : Backend} {env : Env} {clusterId : String} {payload : BatchDeployRequest} {clusters : ClusterTable b} {w : World}

theorem getClusterRow_up {cluster : ClusterDeployment} (up : env.databaseUp w.tick = true)
    (there : clusters.rows.find? (fun row => row.id == clusterId) = some cluster) :
    getClusterRow env clusterId clusters w = .ok cluster { w with tick := w.tick + 1 } := by
  apply ok_of_wp
  simp only [getClusterRow, ask, wp_bind, wp_get, wp_set, wp_pure, up, if_true, there]
  trivial

theorem getClusterRow_missing (up : env.databaseUp w.tick = true)
    (missing : clusters.rows.find? (fun row => row.id == clusterId) = none) :
    getClusterRow env clusterId clusters w = .error clusterNotFound { w with tick := w.tick + 1 } := by
  apply error_of_wp
  simp only [getClusterRow, ask, wp_bind, wp_get, wp_set, wp_pure, up, if_true, missing, wp_throw]
  trivial

theorem batchDeploy_spec {cluster : ClusterDeployment} (up : env.databaseUp w.tick = true)
    (there : clusters.rows.find? (fun row => row.id == clusterId) = some cluster) :
    wp (batchDeploy env true clusterId payload clusters) w
      (fun response t => response.requested = payload.instanceCount ∧
        ∃ requests, t.log = w.log ++ requests ∧ Accounted clusterId payload response.created requests)
      (fun _ _ => False) := by
  rw [batchDeploy, wp_bind, wp_iff_of_ok (getClusterRow_up up there), wp_bind]
  have none : w.log = w.log ++ deployedRequests clusterId payload 0 := (List.append_nil _).symm
  refine wp_mono (deployFrom_spec payload.instanceCount 0 (Nat.zero_add _) none) ?_ (fun _ _ never => never)
  intro created t accounted
  exact ⟨rfl, accounted⟩

/-- Whatever OpenStack answers, a batch deployment in a cluster that is there returns; the requests
it has made are those of the instances it has counted and a beginning of those of the next one, and
so the servers it has asked for are the first ones by name, at most one of them not counted. -/
theorem batch_deploy_accounts {cluster : ClusterDeployment} (up : env.databaseUp w.tick = true)
    (there : clusters.rows.find? (fun row => row.id == clusterId) = some cluster) :
    ∃ response t requests, batchDeploy env true clusterId payload clusters w = .ok response t ∧
      response.requested = payload.instanceCount ∧ t.log = w.log ++ requests ∧
      Accounted clusterId payload response.created requests ∧
      ∃ asked, response.created ≤ asked ∧ asked ≤ response.created + 1 ∧ asked ≤ payload.instanceCount ∧
        serversAsked requests = (List.range asked).map (fun i => serverRequestOf (instanceRequest clusterId payload i)) := by
  obtain ⟨response, t, run, requested, requests, log, accounted⟩ :=
    wp_iff_exists_ok.mp (@batchDeploy_spec b env clusterId payload clusters w cluster up there)
  exact ⟨response, t, requests, run, requested, log, accounted, accounted.servers⟩

theorem createServer_sameTasks (request : ServerCreateRequest) : Frames sameTasks (createServer env request) := by
  refine frames_bind (lookupOr404_sameTasks _ _ _ _ _) (fun _ => ?_)
  refine frames_bind (lookupOr404_sameTasks _ _ _ _ _) (fun _ => ?_)
  refine frames_bind (lookupOr404_sameTasks _ _ _ _ _) (fun _ => frames_bind ?_ (fun _ => ?_))
  · unfold checkKeypair
    split
    · exact frames_bind (lookupOr404_sameTasks _ _ _ _ _) (fun _ => frames_pure _)
    · exact frames_pure _
  · refine frames_bind (call_sameTasks _ _ _ _) (fun server => frames_bind ?_ (fun server => ?_))
    · exact frames_ite _ (call_sameTasks _ _ _ _) (frames_pure _)
    · exact frames_bind (fun _ => rfl) (fun _ => ofExcept_frames _)

theorem deployFrom_sameTasks (compute : Bool) (turns i created : Nat) :
    Frames sameTasks (deployFrom env compute clusterId payload turns i created) := by
  induction turns generalizing i created with
  | zero => exact frames_pure _
  | succ turns ih =>
    have turn : Frames sameTasks (deployInstance env compute clusterId payload i) :=
      frames_tryCatch (frames_ite _ (frames_bind (createServer_sameTasks _) (fun _ => frames_pure _)) (frames_pure _))
        (fun _ => frames_pure _)
    refine frames_bind turn (fun counted => ?_)
    cases counted with
    | some counted => exact ih _ _
    | none => exact frames_pure _

/-- The loop never raises. -/
theorem deployFrom_returns (compute : Bool) (turns i created : Nat) :
    wp (deployFrom env compute clusterId payload turns i created) w (fun _ _ => True) (fun _ _ => False) := by
  induction turns generalizing i created w with
  | zero => trivial
  | succ turns ih =>
    rw [deployFrom, wp_bind, deployInstance, wp_tryCatch]
    refine wp_mono (wp_true _ w) ?_ (fun _ _ _ => trivial)
    intro turn t _
    cases turn with
    | some counted => exact ih _ _
    | none => trivial

theorem deployCluster_there (compute : Bool) (up : ∀ n, env.databaseUp n = true) {cluster : ClusterDeployment}
    (there : clusters.rows.find? (fun row => row.id == clusterId) = some cluster) :
    ∃ response t, deployCluster env compute clusterId payload clusters w = .ok response t ∧
      (t.tasks[w.tasks.length]?).map OperationTask.state = some .succeeded := by
  apply wp_iff_exists_ok.mp
  rw [deployCluster, tracked_wp up, wp_bind, batchDeploy, wp_bind, wp_iff_of_ok (getClusterRow_up (up _) there), wp_bind]
  refine wp_mono (wp_and (deployFrom_returns compute _ _ _) (deployFrom_sameTasks compute _ _ _ _)) ?_
    (fun _ _ never => never.1.elim)
  rintro created t ⟨_, same⟩
  have row : t.tasks[w.tasks.length]? = some ⟨"batch_deploy", "cluster", .str clusterId, .running, none, none⟩ := by
    rw [same]
    exact List.getElem?_concat_length
  rw [wp_pure, wp_bind, updateTask_wp (up _) row, wp_pure]
  have inside := (List.getElem?_eq_some_iff.mp row).1
  simp [inside, OperationTask.update]

theorem deployCluster_missing (compute : Bool) (up : ∀ n, env.databaseUp n = true)
    (missing : clusters.rows.find? (fun row => row.id == clusterId) = none) :
    wp (deployCluster env compute clusterId payload clusters) w (fun _ _ => False) (fun exc t => exc = clusterNotFound ∧
      (t.tasks[w.tasks.length]?).map OperationTask.state = some .failed ∧ t.log = w.log) := by
  rw [deployCluster, tracked_wp up, wp_bind, batchDeploy, wp_bind, wp_iff_of_error (getClusterRow_missing (up _) missing)]
  rw [updateTask_wp (up _) (List.getElem?_concat_length)]
  simp [OperationTask.update, World.begun]

/-- With a database that answers, the task of a batch deployment says that it has succeeded exactly
if the cluster is there: however many instances could not be created, and even if none could. -/
theorem deploy_task_tells_cluster (compute : Bool) (up : ∀ n, env.databaseUp n = true) :
    ((∃ response t, deployCluster env compute clusterId payload clusters w = .ok response t ∧
        (t.tasks[w.tasks.length]?).map OperationTask.state = some .succeeded) ↔
      ∃ cluster ∈ clusters.rows, cluster.id = clusterId) ∧
    ((∃ t, deployCluster env compute clusterId payload clusters w = .error clusterNotFound t ∧
        (t.tasks[w.tasks.length]?).map OperationTask.state = some .failed ∧ t.log = w.log) ↔
      ¬ ∃ cluster ∈ clusters.rows, cluster.id = clusterId) := by
  cases found : clusters.rows.find? (fun row => row.id == clusterId) with
  | some cluster =>
    have present : ∃ cluster ∈ clusters.rows, cluster.id = clusterId :=
      ⟨cluster, List.mem_of_find?_eq_some found, by simpa using List.find?_some found⟩
    obtain ⟨response, t, run, succeeded⟩ := @deployCluster_there b env clusterId payload clusters w compute up cluster found
    refine ⟨iff_of_true ⟨response, t, run, succeeded⟩ present, iff_of_false ?_ (not_not.mpr present)⟩
    rintro ⟨u, raised, _⟩
    cases run.symm.trans raised
  | none =>
    have absent : ¬ ∃ cluster ∈ clusters.rows, cluster.id = clusterId := by
      rintro ⟨cluster, inside, own⟩
      exact List.find?_eq_none.mp found cluster inside (beq_iff_eq.mpr own)
    have spec := @deployCluster_missing b env clusterId payload clusters w compute up found
    refine ⟨iff_of_false ?_ absent, iff_of_true ?_ absent⟩
    · rintro ⟨response, t, run, _⟩
      exact wp_of_ok spec run
    · cases run : deployCluster env compute clusterId payload clusters w with
      | ok response t => exact (wp_of_ok spec run).elim
      | error exc t =>
        obtain ⟨rfl, failed, silent⟩ := wp_of_error spec run
        exact ⟨t, rfl, failed, silent⟩

end Outcome

/- A cloud that has no room for a third server. -/
def crampedCloud : Env where
  ready := true
  listLimit := 1000
  connect _ := none
  sdk _ request :=
    if (request.kwargs.lookup "name").any (fun name => name.text = "web-3") then
      { result := .error (.foreign "ConflictException" "No valid host was found") }
    else {
      result := .ok ⟨.dict [("id", .str "srv"), ("status", .str "BUILD")], none⟩
      created := if request.operation = "create_server" then ["srv"] else [] }
  wall _ := 0
  lag _ := 0
  redisUp _ := true
  databaseUp _ := true
  uuid _ := "uuid"

def fiveOfThem : BatchDeployRequest where
  templateName := "web"
  instanceCount := 5
  imageId := "img-1"
  flavorId := "flv-1"
  networkId := "net-1"
  nameLength := by decide
  countBounds := by decide

def oneCluster : ClusterTable postgresql :=
  ⟨[⟨"c-1", "prod", none, "compute", "active", 0, [], 0⟩], by simp, by decide⟩

theorem third_of_five_fails : ∃ response t requests,
    batchDeploy crampedCloud true "c-1" fiveOfThem oneCluster .initial = .ok response t ∧
      response.requested = 5 ∧ t.log = [] ++ requests ∧ Accounted "c-1" fiveOfThem response.created requests := by
  have there : oneCluster.rows.find? (fun row => row.id == "c-1") =
      some ⟨"c-1", "prod", none, "compute", "active", 0, [], 0⟩ := by decide
  obtain ⟨response, t, requests, run, requested, log, accounted, _⟩ :=
    @batch_deploy_accounts postgresql crampedCloud "c-1" fiveOfThem oneCluster .initial _ rfl there
  exact ⟨response, t, requests, run, requested, log, accounted⟩

/-- Without a compute service no instance is created, and the task says that it has succeeded. -/
theorem nothing_deployed_succeeds : ∃ response t,
    deployCluster crampedCloud false "c-1" fiveOfThem oneCluster .initial = .ok response t ∧
      (t.tasks[(0 : Nat)]?).map OperationTask.state = some .succeeded := by
  have up (n : Nat) : crampedCloud.databaseUp n = true := rfl
  exact (@deploy_task_tells_cluster postgresql crampedCloud "c-1" fiveOfThem oneCluster .initial false up).1.mpr
    ⟨_, List.mem_singleton_self _, rfl⟩

end VMachine.Orchestration
