import VMachine.Orchestration.Deploy

/-! `ClusterManager.provision_cluster_with_instances`. The cluster is committed before the request for
its instances is so much as built, and its row names the instances that are wanted. -/
namespace VMachine.Orchestration.Provisioning
open OpenStack Database Tables Py Effects

/- The world together with the table of the clusters. -/
structure Site (b : Backend) where
  world : World
  clusters : ClusterTable b

/- The service of the clusters, with a compute service or without one. -/
structure ClusterService where
  compute : Bool
  deriving Repr, DecidableEq

structure Provisioned where
  clusterId : String
  deployResult : BatchDeployResponse
  message : String
  deriving Repr, DecidableEq

/- The dictionary that is returned. -/
inductive ProvisionResponse where
  | error (text : String)
  | provisioned (provisioned : Provisioned)
  deriving Repr, DecidableEq

section Manager
variable {b : Backend} {α : Type}

abbrev Program (b : Backend) := EStateM Exc (Site b)

def within (m : M α) : Program b α := fun s =>
  match m s.world with
  | .ok a w => .ok a { s with world := w }
  | .error exc w => .error exc { s with world := w }

def raising (x : Except Exc α) : Program b α :=
  match x with
  | .ok a => pure a
  | .error exc => throw exc

variable (env : Env) (manager : Option ClusterService) (isoformat : Nat → String)

/- The database answers, or the session raises. -/
def statement : Program b Unit := do
  let n ← within ask
  if env.databaseUp n then return else throw databaseError

/- `create_cluster`: SELECT, INSERT with COMMIT, and the SELECT that reads the row again. -/
def createCluster (call : Call) : Program b ClusterSummary := do
  statement env
  let s ← get
  match ← raising (scalarOneOrNone (s.clusters.rows.filter (fun row => decide (row.name = call.payload.name)))) with
  | some _ => throw (alreadyExists call.payload.name)
  | none =>
    statement env
    match s.clusters.insert call.cluster with
    | .error violation => throw (refusal violation)
    | .ok clusters =>
      modify (fun s => { s with clusters := clusters })
      statement env
      return serialize isoformat call.cluster

theorem undescribed : ∀ text ∈ (none : Option String), text.length ≤ 2000 :=
  fun text given => absurd given (Option.not_mem_none text)

/- `ClusterCreateRequest(name=name, cluster_type="compute", node_count=instance_count)`. -/
def clusterRequest (name : String) (instanceCount : Int) : Except Exc ClusterCreateRequest :=
  if named : 1 ≤ name.length ∧ name.length ≤ 255 then
    if 0 ≤ instanceCount then
      .ok { name := name, nodeCount := instanceCount.toNat, nameLength := named,
            descriptionLength := undescribed }
    else .error (.validationError "ClusterCreateRequest" ["node_count"])
  else .error (.validationError "ClusterCreateRequest" (if 0 ≤ instanceCount then ["name"] else ["name", "node_count"]))

/- `BatchDeployRequest(template_name=name, instance_count=instance_count, …)`. -/
def deployRequest (name : String) (instanceCount : Int) (imageId flavorId networkId : String) : Except Exc BatchDeployRequest :=
  if named : 1 ≤ name.length ∧ name.length ≤ 255 then
    if bounds : 1 ≤ instanceCount ∧ instanceCount ≤ 100 then
      .ok { templateName := name, instanceCount := instanceCount.toNat, imageId := imageId, flavorId := flavorId,
            networkId := networkId, nameLength := named, countBounds := by omega }
    else .error (.validationError "BatchDeployRequest" ["instance_count"])
  else .error (.validationError "BatchDeployRequest"
    (if 1 ≤ instanceCount ∧ instanceCount ≤ 100 then ["template_name"] else ["template_name", "instance_count"]))

/- The call, with the id that is drawn for the cluster and the time at which its row is sent. The manager is
built with a service of the clusters or, by default, without one. -/
def provisionClusterWithInstances (id : String) (now : Nat) (name : String) (instanceCount : Int)
    (imageId flavorId networkId : String) : Program b ProvisionResponse :=
  match manager with
  | none => return .error "Cluster service not available"
  | some service => do
    let request ← raising (clusterRequest name instanceCount)
    let cluster ← createCluster env isoformat ⟨request, id, now⟩
    let payload ← raising (deployRequest name instanceCount imageId flavorId networkId)
    let s ← get
    let deployResult ← within (batchDeploy env service.compute cluster.id payload s.clusters)
    return .provisioned ⟨cluster.id, deployResult,
      "Cluster '" ++ name ++ "' with " ++ toString deployResult.created ++ " instances provisioned"⟩

end Manager

/- The row of the cluster, with as many nodes as are wanted. -/
def wantedCluster (id : String) (now : Nat) (name : String) (instanceCount : Int) : ClusterDeployment :=
  ⟨id, name, none, "compute", "active", instanceCount.toNat, [], now⟩

/- The request for the cluster is valid, and the table takes its row. -/
def Creatable {b : Backend} (clusters : ClusterTable b) (id : String) (now : Nat) (name : String) (instanceCount : Int) : Prop :=
  (1 ≤ name.length ∧ name.length ≤ 255) ∧ 0 ≤ instanceCount ∧ name ∉ clusters.keys ∧
    (wantedCluster id now name instanceCount).fits b = true

section Outcome
variable {b : Backend} {env : Env} {isoformat : Nat → String} {s : Site b} {id name imageId flavorId networkId : String}
  {now : Nat} {instanceCount : Int} {α : Type}

theorem within_wp {m : M α} {Q : α → Site b → Prop} {E : Exc → Site b → Prop} :
    wp (within m) s Q E ↔ wp m s.world (fun a w => Q a { s with world := w }) (fun exc w => E exc { s with world := w }) := by
  unfold wp within
  cases m s.world <;> rfl

theorem statement_wp (up : ∀ n, env.databaseUp n = true) {Q : Unit → Site b → Prop} {E : Exc → Site b → Prop} :
    wp (statement env) s Q E ↔ Q () { s with world := { s.world with tick := s.world.tick + 1 } } := by
  simp only [statement, wp_bind, within_wp, ask, wp_get, wp_set, wp_pure, up, if_true]

theorem createCluster_spec (up : ∀ n, env.databaseUp n = true) (call : Call) :
    wp (createCluster env isoformat call) s
      (fun summary t => call.payload.name ∉ s.clusters.keys ∧ call.cluster.fits b = true ∧ summary.id = call.id ∧
        t.clusters.rows = s.clusters.rows ++ [call.cluster] ∧ t.world.log = s.world.log)
      (fun _ t => (call.payload.name ∈ s.clusters.keys ∨ call.cluster.fits b = false) ∧ t.clusters = s.clusters) := by
  have keyed (row other : ClusterDeployment) (one : decide (row.name = call.payload.name) = true)
      (two : decide (other.name = call.payload.name) = true) : row.name = other.name :=
    (of_decide_eq_true one).trans (of_decide_eq_true two).symm
  rw [createCluster, wp_bind, statement_wp up, wp_bind, wp_get, wp_bind]
  obtain ⟨none, others⟩ | ⟨row, inside, own, found⟩ := scalarOneOrNone_keyed s.clusters keyed
  · have free : call.payload.name ∉ s.clusters.keys := by
      intro taken
      obtain ⟨row, inside, own⟩ := List.mem_map.mp taken
      exact of_decide_eq_false (others row inside) own
    simp only [none, raising, wp_pure, wp_bind, statement_wp up]
    cases inserted : s.clusters.insert call.cluster with
    | error violation =>
      refine ⟨.inr ?_, rfl⟩
      obtain unfit | taken := Table.insert_refused inserted
      · exact unfit
      · exact absurd taken free
    | ok clusters =>
      obtain ⟨rows, fits, _⟩ := Table.rows_of_insert inserted
      simp only [wp_bind, wp_modify, statement_wp up, wp_pure]
      exact ⟨free, fits, rfl, rows, trivial⟩
  · simp only [found, raising, wp_pure, wp_throw]
    exact ⟨.inl (List.mem_map.mpr ⟨row, inside, of_decide_eq_true own⟩), trivial⟩

theorem clusterRequest_ok {request : ClusterCreateRequest} (valid : clusterRequest name instanceCount = .ok request) :
    (1 ≤ name.length ∧ name.length ≤ 255) ∧ 0 ≤ instanceCount ∧ request.name = name ∧
      (Call.mk request id now).cluster = wantedCluster id now name instanceCount := by
  unfold clusterRequest at valid
  split at valid
  · split at valid
    · rename_i named counted
      cases valid
      exact ⟨named, counted, rfl, rfl⟩
    · contradiction
  · contradiction

theorem clusterRequest_error {exc : Exc} (invalid : clusterRequest name instanceCount = .error exc) :
    ¬ ((1 ≤ name.length ∧ name.length ≤ 255) ∧ 0 ≤ instanceCount) := by
  rintro ⟨named, counted⟩
  simp [clusterRequest, named, counted] at invalid

/- What the response says of the instances, with the requests that have been made for them. -/
structure ToldOf (service : ClusterService) (instanceCount : Int) (p : Provisioned) (s t : Site b) : Prop where
  requested : (p.deployResult.requested : Int) = instanceCount
  created : p.deployResult.created ≤ p.deployResult.requested
  idle : service.compute = false → p.deployResult.created = 0 ∧ t.world.log = s.world.log

theorem deployFrom_idle {clusterId : String} {payload : BatchDeployRequest} (turns i created : Nat) (w : World) :
    deployFrom env false clusterId payload turns i created w = .ok created w := by
  induction turns generalizing i with
  | zero => rfl
  | succ turns ih => exact ih (i + 1)

/-- A batch deployment in a cluster that is there returns, and without a compute service it creates nothing. -/
theorem batchDeploy_told {service : ClusterService} {clusterId : String} {payload : BatchDeployRequest}
    {clusters : ClusterTable b} {w : World} (up : env.databaseUp w.tick = true) {cluster : ClusterDeployment}
    (there : clusters.rows.find? (fun row => row.id == clusterId) = some cluster) :
    wp (batchDeploy env service.compute clusterId payload clusters) w
      (fun response t => response.requested = payload.instanceCount ∧ response.created ≤ response.requested ∧
        (service.compute = false → response.created = 0 ∧ t.log = w.log))
      (fun _ _ => False) := by
  cases compute : service.compute with
  | true =>
    refine wp_mono (batchDeploy_spec up there) ?_ (fun _ _ never => never)
    rintro response t ⟨requested, _, _, accounted⟩
    exact ⟨requested, requested ▸ accounted.1, by simp⟩
  | false =>
    rw [batchDeploy, wp_bind, wp_iff_of_ok (getClusterRow_up up there), wp_bind, wp_iff_of_ok (deployFrom_idle _ _ _ _)]
    exact ⟨rfl, Nat.zero_le _, fun _ => ⟨rfl, rfl⟩⟩

/-- With a database that answers, what the call leaves and when it returns. -/
theorem provision_spec (up : ∀ n, env.databaseUp n = true) (service : ClusterService) :
    wp (provisionClusterWithInstances env (some service) isoformat id now name instanceCount imageId flavorId networkId) s
      (fun r t => Creatable s.clusters id now name instanceCount ∧ (1 ≤ instanceCount ∧ instanceCount ≤ 100) ∧
        t.clusters.rows = s.clusters.rows ++ [wantedCluster id now name instanceCount] ∧
        ∃ p, r = .provisioned p ∧ p.clusterId = id ∧ ToldOf service instanceCount p s t)
      (fun _ t => (Creatable s.clusters id now name instanceCount ∧ ¬ (1 ≤ instanceCount ∧ instanceCount ≤ 100) ∧
          t.clusters.rows = s.clusters.rows ++ [wantedCluster id now name instanceCount] ∧ t.world.log = s.world.log) ∨
        (¬ Creatable s.clusters id now name instanceCount ∧ t.clusters = s.clusters)) := by
  unfold provisionClusterWithInstances
  cases valid : clusterRequest name instanceCount with
  | error exc =>
    have invalid := clusterRequest_error valid
    exact .inr ⟨fun creatable => invalid ⟨creatable.1, creatable.2.1⟩, rfl⟩
  | ok request =>
    obtain ⟨named, counted, own, row⟩ := @clusterRequest_ok id name now instanceCount request valid
    simp only [raising, wp_bind, wp_pure]
    refine wp_mono (createCluster_spec up ⟨request, id, now⟩) ?_ ?_
    · rintro summary t ⟨free, fits, same, rows, silent⟩
      rw [row] at fits rows
      rw [own] at free
      have creatable : Creatable s.clusters id now name instanceCount := ⟨named, counted, free, fits⟩
      by_cases bounds : 1 ≤ instanceCount ∧ instanceCount ≤ 100
      · simp only [deployRequest, dif_pos named, dif_pos bounds, wp_pure, wp_get, within_wp]
        obtain ⟨cluster, there⟩ : ∃ cluster, t.clusters.rows.find? (fun row => row.id == summary.id) = some cluster := by
          rw [← Option.isSome_iff_exists, List.find?_isSome, rows, same]
          exact ⟨_, List.mem_append_right _ (List.mem_singleton_self _), by simp [wantedCluster]⟩
        refine wp_mono (batchDeploy_told (up _) there) ?_ (fun _ _ never => never.elim)
        rintro response w ⟨requested, created, idle⟩
        have count : (response.requested : Int) = instanceCount := by
          rw [requested]
          change ((instanceCount.toNat : Nat) : Int) = instanceCount
          omega
        refine ⟨creatable, bounds, rows, _, rfl, same, count, created, fun without => ?_⟩
        exact ⟨(idle without).1, (idle without).2.trans silent⟩
      · simp only [deployRequest, dif_pos named, dif_neg bounds, wp_throw]
        exact .inl ⟨creatable, bounds, rows, silent⟩
    · rintro exc t ⟨refused, same⟩
      refine .inr ⟨?_, same⟩
      rintro ⟨_, _, free, fits⟩
      rw [row, own] at refused
      rcases refused with taken | unfit
      · exact free taken
      · rw [fits] at unfit
        contradiction

/-- With a database that answers. Without a service of the clusters the call returns an error and changes nothing.
With one it returns exactly if the cluster can be created and from one to a hundred instances are wanted. Whether it
returns or raises, and however few instances there are, a cluster that can be created is left in the table with as
many nodes as are wanted. -/
theorem provisioned_cluster_stays (up : ∀ n, env.databaseUp n = true) :
    (provisionClusterWithInstances env none isoformat id now name instanceCount imageId flavorId networkId s =
      .ok (.error "Cluster service not available") s) ∧
    ∀ service : ClusterService,
      ((∃ r t, provisionClusterWithInstances env (some service) isoformat id now name instanceCount imageId flavorId
          networkId s = .ok r t) ↔
        Creatable s.clusters id now name instanceCount ∧ 1 ≤ instanceCount ∧ instanceCount ≤ 100) ∧
      (∀ r t, provisionClusterWithInstances env (some service) isoformat id now name instanceCount imageId flavorId
          networkId s = .ok r t →
        t.clusters.rows = s.clusters.rows ++ [wantedCluster id now name instanceCount] ∧
          ∃ p, r = .provisioned p ∧ p.clusterId = id ∧ ToldOf service instanceCount p s t) ∧
      ∀ exc t, provisionClusterWithInstances env (some service) isoformat id now name instanceCount imageId flavorId
          networkId s = .error exc t →
        (Creatable s.clusters id now name instanceCount →
          t.clusters.rows = s.clusters.rows ++ [wantedCluster id now name instanceCount] ∧ t.world.log = s.world.log) ∧
        (¬ Creatable s.clusters id now name instanceCount → t.clusters = s.clusters) := by
  refine ⟨rfl, fun service => ?_⟩
  have spec := @provision_spec b env isoformat s id name imageId flavorId networkId now instanceCount up service
  cases run : provisionClusterWithInstances env (some service) isoformat id now name instanceCount imageId flavorId
      networkId s with
  | ok r t =>
    obtain ⟨creatable, bounds, left, told⟩ := wp_of_ok spec run
    refine ⟨iff_of_true ⟨r, t, rfl⟩ ⟨creatable, bounds⟩, ?_, fun _ _ other => by contradiction⟩
    rintro _ _ same
    cases same
    exact ⟨left, told⟩
  | error exc t =>
    refine ⟨iff_of_false ?_ ?_, fun _ _ other => by contradiction, ?_⟩
    · rintro ⟨_, _, other⟩
      contradiction
    · rintro ⟨creatable, bounds⟩
      obtain ⟨_, outside, _⟩ | ⟨impossible, _⟩ := wp_of_error spec run
      · exact outside bounds
      · exact impossible creatable
    · rintro _ _ same
      cases same
      obtain ⟨creatable, _, left⟩ | ⟨impossible, unchanged⟩ := wp_of_error spec run
      · exact ⟨fun _ => left, fun never => absurd creatable never⟩
      · exact ⟨fun creatable => absurd creatable impossible, fun _ => unchanged⟩

end Outcome

def emptySite : Site sqlite := ⟨.initial, ⟨[], List.nodup_nil, by simp⟩⟩

/-- A hundred and one instances are refused, and the cluster of a hundred and one nodes is there. -/
theorem refused_cluster_left : ∃ exc t,
    provisionClusterWithInstances crampedCloud (some ⟨true⟩) toString "c-1" 0 "web" 101 "img-1" "flv-1" "net-1" emptySite =
        .error exc t ∧
      t.clusters.rows = [] ++ [wantedCluster "c-1" 0 "web" 101] := by
  have up (n : Nat) : crampedCloud.databaseUp n = true := rfl
  have creatable : Creatable emptySite.clusters "c-1" 0 "web" 101 := by
    refine ⟨by decide, by decide, List.not_mem_nil, by decide +kernel⟩
  have outcome := (@provisioned_cluster_stays sqlite crampedCloud toString emptySite "c-1" "web" "img-1" "flv-1" "net-1" 0 101
    up).2 ⟨true⟩
  cases run : provisionClusterWithInstances crampedCloud (some ⟨true⟩) toString "c-1" 0 "web" 101 "img-1" "flv-1" "net-1"
      emptySite with
  | ok r t => exact absurd (outcome.1.mp ⟨r, t, run⟩).2.2 (by decide)
  | error exc t => exact ⟨exc, t, rfl, ((outcome.2.2 exc t run).1 creatable).1⟩

end VMachine.Orchestration.Provisioning
