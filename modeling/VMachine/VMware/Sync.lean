import VMachine.OpenStack.Tasks
import VMachine.VMware.Assessment
import VMachine.VMware.Snapshots

/-! POST /vmware/sync. The service lists the inventory and starts one detached upsert for each
object it finds, counting as it goes; the endpoint then sets its operation task. Nobody
awaits the upserts, which run whenever the endpoint waits for the database, and afterwards. -/
namespace VMachine.VMware
open Py Effects OpenStack Database Tables

/- What the code reads of a datastore and of its summary. -/
structure DatastoreInfo where
  capacity : Attr Int := .unset
  freeSpace : Attr Int := .unset
  type : Attr String := .unset
  accessible : Attr Bool := .unset
  deriving Repr

structure Datastore where
  name : Attr String := .unset
  summary : Attr DatastoreInfo := .unset
  overallStatus : Attr String := .unset
  deriving Repr

inductive NetworkKind where
  | network
  | distributed
  | opaqueNetwork
  deriving Repr, DecidableEq

/- `config` is that of a distributed port group, with its vlanId. -/
structure Network where
  name : Attr String := .unset
  kind : NetworkKind := .network
  config : Attr (Attr Int) := .unset
  deriving Repr

structure DatastoreDetail (F : Type) where
  name : String
  type : String
  capacityGb : F
  freeGb : F
  accessible : Bool
  maintenanceMode : String
  deriving Repr, DecidableEq

structure NetworkDetail where
  name : String
  type : String
  vlanId : Option Int
  accessible : Bool
  deriving Repr, DecidableEq

/- The dictionary that is stored with a snapshot. -/
inductive RawData (F : Type) where
  | vm (detail : Detail)
  | datastore (detail : DatastoreDetail F)
  | network (detail : NetworkDetail)
  deriving Repr, DecidableEq

/- `detail.get("name", "")`. -/
def RawData.name {F : Type} : RawData F → String
  | .vm detail => detail.name
  | .datastore detail => detail.name
  | .network detail => detail.name

section Details
variable {F : Type} (ar : Arithmetic F)

/- `round(size / (1024**3), 2) if size else 0.0`, of a size that is 0 when it is not given. -/
def gigabytes (size : Option Int) : F :=
  match size with
  | some n => if n = 0 then ar.lit 0 else ar.round (ar.lit (n / 1024 ^ 3)) 2
  | none => ar.lit 0

def getDatastoreDetail (ds : Datastore) : DatastoreDetail F :=
  let summary := ds.summary.toOption
  { name := str (ds.name.getD "")
    type := match summary with
      | some info => str (info.type.getD "")
      | none => ""
    capacityGb := gigabytes ar (summary.bind (fun info => info.capacity.toOption))
    freeGb := gigabytes ar (summary.bind (fun info => info.freeSpace.toOption))
    accessible := match summary with
      | some info => (info.accessible.getD true).getD false
      | none => true
    maintenanceMode := str (ds.overallStatus.getD "normal") }

def getNetworkDetail (net : Network) : NetworkDetail where
  name := str (net.name.getD "")
  type := match net.kind with
    | .network => "network"
    | .distributed => "distributed"
    | .opaqueNetwork => "opaque"
  vlanId := match net.kind with
    | .distributed => net.config.toOption.bind Attr.toOption
    | _ => none
  accessible := true

end Details

/- An object of the inventory with its attribute `id`, if it has one. -/
structure Managed (α : Type) where
  object : α
  id : Option String

/- What vCenter answers to the three listings. -/
structure VCenter where
  vms : Except Exc (List (Managed VirtualMachine))
  datastores : Except Exc (List (Managed Datastore))
  networks : Except Exc (List (Managed Network))

/- The attribute of each object that the service goes through, in that order. -/
def VCenter.ids (vcenter : VCenter) : List (Option String) :=
  match vcenter.vms, vcenter.datastores, vcenter.networks with
  | .ok vms, .ok datastores, .ok networks =>
    vms.map Managed.id ++ datastores.map Managed.id ++ networks.map Managed.id
  | _, _, _ => []

/- There is nothing to store, or the first object already stops the service. -/
def VCenter.Unstarted (vcenter : VCenter) : Prop := ∀ id ∈ vcenter.ids.head?, id = none

structure InventorySyncResponse where
  syncedVms : Nat
  syncedDatastores : Nat
  syncedNetworks : Nat
  operationTaskId : Option Nat
  deriving Repr, DecidableEq

inductive SyncPhase where
  | requested
  | queued (task : Nat)
  | running (task : Nat)
  | synced (task : Nat) (response : InventorySyncResponse)
  | failing (task : Nat) (exc : Exc)
  | returned (task : Nat) (response : InventorySyncResponse)
  | raised (task : Option Nat) (exc : Exc)
  deriving Repr, DecidableEq

/- The request, among the upserts of this and of other syncs. `own` are the positions of the
upserts that this one has started. -/
structure SyncProcess (b : Backend) (R : Type) where
  world : World
  store : Snapshots b R
  own : List Nat
  phase : SyncPhase

inductive SyncEvent (R : Type) where
  | proceed
  | upsert (e : UpsertEvent R)
  | outage (i : Nat)

section Service
variable {F : Type} {b : Backend}

/- `asyncio.create_task(_do_upsert())`. -/
def SyncProcess.spawn {R : Type} (u : Upsert R) (s : SyncProcess b R) : SyncProcess b R :=
  { s with
    store := { s.store with tasks := s.store.tasks ++ [⟨u, .waiting⟩] }
    own := s.own ++ [s.store.tasks.length] }

abbrev Sync (b : Backend) (F : Type) := EStateM Exc (SyncProcess b (RawData F))

def answered {α : Type} : Except Exc α → Sync b F α
  | .ok a => return a
  | .error exc => throw exc

/- One of the three loops, with its counter. -/
def syncEach {α : Type} (resourceType owner : String) (detail : α → RawData F) : List (Managed α) → Sync b F Nat
  | [] => return 0
  | m :: ms => do
    match m.id with
    | none => throw (.attributeError owner "id")
    | some id =>
      modify (SyncProcess.spawn ⟨resourceType, id, (detail m.object).name, detail m.object⟩)
      let synced ← syncEach resourceType owner detail ms
      return synced + 1

/- `sync_inventory` of the service. The caches it empties go with the service. -/
def syncInventory (ar : Arithmetic F) (lower : String → String) (vcenter : VCenter) (operationTaskId : Option Nat) :
    Sync b F InventorySyncResponse := do
  let vms ← answered vcenter.vms
  let datastores ← answered vcenter.datastores
  let networks ← answered vcenter.networks
  let syncedVms ← syncEach "vmware_vm" "vim.VirtualMachine" (fun vm => .vm (getVmDetail lower vm)) vms
  let syncedDs ← syncEach "vmware_datastore" "vim.Datastore" (fun ds => .datastore (getDatastoreDetail ar ds)) datastores
  let syncedNet ← syncEach "vmware_network" "vim.Network" (fun net => .network (getNetworkDetail net)) networks
  return ⟨syncedVms, syncedDs, syncedNet, operationTaskId⟩

end Service

section Endpoint
variable {F : Type} {b : Backend} (ar : Arithmetic F) (site : Site) (vcenter : VCenter)

namespace SyncProcess

/- A statement of the endpoint that goes to the database. -/
def perform {R α : Type} (s : SyncProcess b R) (m : M α) (done : α → SyncPhase) (failed : Exc → SyncPhase) :
    SyncProcess b R :=
  match m s.world with
  | .ok a w => { s with world := w, phase := done a }
  | .error exc w => { s with world := w, phase := failed exc }

variable (s : SyncProcess b (RawData F))

/- `sync_inventory` of the endpoint. -/
def proceed : Option (SyncProcess b (RawData F)) :=
  match s.phase with
  | .requested =>
    some (s.perform (createTask site.env "vmware_inventory_sync" "inventory" (.str "vmware")) .queued (.raised none))
  | .queued task =>
    some (s.perform (updateTask site.env task .running .none none) (fun _ => .running task) (.raised (some task)))
  | .running task =>
    match syncInventory ar site.lower vcenter (some task) s with
    | .ok response t => some { t with phase := .synced task response }
    | .error exc t => some { t with phase := .failing task exc }
  | .synced task response =>
    some (s.perform (updateTask site.env task .succeeded .none none) (fun _ => .returned task response)
      (.failing task))
  | .failing task exc =>
    some (s.perform (updateTask site.env task .failed .none (some exc.message)) (fun _ => .raised (some task) exc)
      (.raised (some task)))
  | .returned _ _ => none
  | .raised _ _ => none

/- The session of an upsert loses the database. -/
def lose (i : Nat) : Option (SyncProcess b (RawData F)) :=
  match s.store.tasks[i]? with
  | some ⟨u, stage⟩ =>
    if stage.finished then none else some { s with store := s.store.move i u (.failed databaseError) }
  | none => none

end SyncProcess

def SyncProcess.step [DecidableEq F] (s : SyncProcess b (RawData F)) :
    SyncEvent (RawData F) → Option (SyncProcess b (RawData F))
  | .proceed => s.proceed ar site vcenter
  | .upsert e => (s.store.step e).map (fun store => { s with store := store })
  | .outage i => s.lose i

end Endpoint

/- The request has ended. -/
def SyncPhase.ended : SyncPhase → Bool
  | .returned _ _ | .raised _ _ => true
  | _ => false

namespace SyncProcess
variable {b : Backend} {R : Type} (s : SyncProcess b R)

/- The upserts that the request has started. -/
def tasks : List (UpsertTask R) := s.own.filterMap (fun i => s.store.tasks[i]?)

/- How many of them are committed. -/
def committed (resourceType : String) : Nat :=
  s.tasks.countP (fun task => decide (task.upsert.resourceType = resourceType) && task.stage.isCommitted)

/- The response counts what is stored. -/
structure Stored (response : InventorySyncResponse) : Prop where
  vms : s.committed "vmware_vm" = response.syncedVms
  datastores : s.committed "vmware_datastore" = response.syncedDatastores
  networks : s.committed "vmware_network" = response.syncedNetworks
  rows : ∀ task ∈ s.tasks, task.stage.isCommitted = true → ∃ row ∈ s.store.table.rows, row.pair = task.upsert.pair

/- The state of the operation task. -/
def Recorded (task : Nat) (state : TaskState) : Prop := (s.world.tasks[task]?).map OperationTask.state = some state

instance (task : Nat) (state : TaskState) : Decidable (s.Recorded task state) :=
  inferInstanceAs (Decidable (_ = _))

def MarkedFailed : Prop :=
  match s.phase with
  | .raised (some task) _ => s.Recorded task .failed
  | _ => False

instance : Decidable s.MarkedFailed :=
  show Decidable (match s.phase with | .raised (some task) _ => s.Recorded task .failed | _ => False) from
    match s.phase with
    | .raised (some task) _ => inferInstanceAs (Decidable (s.Recorded task .failed))
    | .raised none _ => .isFalse id
    | .requested | .queued _ | .running _ | .synced _ _ | .failing _ _ | .returned _ _ => .isFalse id

/- When the task is set to succeeded and the counts are returned, they are stored. When an
upsert has failed and the request has ended, the task is set to failed. -/
structure Truthful : Prop where
  stored : ∀ task response, s.phase = .returned task response → s.Stored response
  failed : s.phase.ended = true → (∃ task ∈ s.tasks, task.stage.hasFailed = true) → s.MarkedFailed

end SyncProcess

/- The counts are those of the upserts. -/
structure Counts {R : Type} (response : InventorySyncResponse) (upserts : List (Upsert R)) : Prop where
  vms : upserts.countP (fun u => decide (u.resourceType = "vmware_vm")) = response.syncedVms
  datastores : upserts.countP (fun u => decide (u.resourceType = "vmware_datastore")) = response.syncedDatastores
  networks : upserts.countP (fun u => decide (u.resourceType = "vmware_network")) = response.syncedNetworks
  types : ∀ u ∈ upserts, u.resourceType ∈ ["vmware_vm", "vmware_datastore", "vmware_network"]

namespace SyncPhase

/- The service has been called. -/
def spawned : SyncPhase → Bool
  | .requested | .queued _ | .running _ => false
  | _ => true

def response : SyncPhase → Option InventorySyncResponse
  | .synced _ response | .returned _ response => some response
  | _ => none

/- The operation task and its state, as long as the database has answered. -/
def expects : SyncPhase → Option (Nat × TaskState)
  | .queued task => some (task, .queued)
  | .running task | .synced task _ | .failing task _ => some (task, .running)
  | .returned task _ => some (task, .succeeded)
  | .requested | .raised _ _ => none

end SyncPhase

structure Consistent {b : Backend} {R : Type} (s : SyncProcess b R) : Prop where
  owed : ∀ task ∈ s.store.tasks, s.store.Owed task
  valid : ∀ i ∈ s.own, i < s.store.tasks.length
  unspawned : s.phase.spawned = false → s.own = []
  counted : ∀ response ∈ s.phase.response, Counts response (s.tasks.map UpsertTask.upsert)
  row : ∀ expected ∈ s.phase.expects, s.Recorded expected.1 expected.2

section Counting
variable {b : Backend} {R : Type} {s t : SyncProcess b R}

theorem mem_own_tasks {task : UpsertTask R} : task ∈ s.tasks ↔ ∃ i ∈ s.own, s.store.tasks[i]? = some task :=
  List.mem_filterMap

/-- Of one type, as many are committed as there are exactly when all are. -/
theorem committed_iff (resourceType : String) :
    s.committed resourceType =
      (s.tasks.map UpsertTask.upsert).countP (fun u => decide (u.resourceType = resourceType)) ↔
    ∀ task ∈ s.tasks, task.upsert.resourceType = resourceType → task.stage.isCommitted = true := by
  have ofType : s.committed resourceType = (s.tasks.filter
      (fun task => decide (task.upsert.resourceType = resourceType))).countP (fun task => task.stage.isCommitted) := by
    rw [List.countP_filter]
    simp only [SyncProcess.committed, Bool.and_comm]
  have all : (s.tasks.map UpsertTask.upsert).countP (fun u => decide (u.resourceType = resourceType)) =
      (s.tasks.filter (fun task => decide (task.upsert.resourceType = resourceType))).length := by
    rw [List.countP_map, List.countP_eq_length_filter]
    rfl
  rw [ofType, all, List.countP_eq_length]
  simp [List.mem_filter]

/-- The counts are stored exactly when all upserts of the request are committed. -/
theorem Consistent.stored_iff (consistent : Consistent s) {response : InventorySyncResponse}
    (has : s.phase.response = some response) :
    s.Stored response ↔ ∀ task ∈ s.tasks, task.stage.isCommitted = true := by
  have counts := consistent.counted response has
  constructor
  · intro stored task member
    have vms := (committed_iff "vmware_vm").mp (stored.vms.trans counts.vms.symm) task member
    have datastores := (committed_iff "vmware_datastore").mp (stored.datastores.trans counts.datastores.symm) task member
    have networks := (committed_iff "vmware_network").mp (stored.networks.trans counts.networks.symm) task member
    have type := counts.types task.upsert (List.mem_map_of_mem member)
    simp only [List.mem_cons, List.not_mem_nil, or_false] at type
    obtain type | type | type := type
    · exact vms type
    · exact datastores type
    · exact networks type
  · intro all
    have every (resourceType : String) := (@committed_iff b R s resourceType).mpr (fun task member _ => all task member)
    refine ⟨(every _).trans counts.vms, (every _).trans counts.datastores, (every _).trans counts.networks, ?_⟩
    intro task member committed
    obtain ⟨i, _, here⟩ := mem_own_tasks.mp member
    have owed := consistent.owed task (List.mem_of_getElem? here)
    cases stage : task.stage with
    | committed =>
      simp only [Snapshots.Owed, stage] at owed
      obtain ⟨_, row, inside, own, _⟩ := owed
      exact ⟨row, inside, own⟩
    | waiting => simp [stage, UpsertStage.isCommitted] at committed
    | selected existing => simp [stage, UpsertStage.isCommitted] at committed
    | failed exc => simp [stage, UpsertStage.isCommitted] at committed

/-- Nothing is told of a request that has started no upsert, except that it has stored nothing. -/
theorem truthful_of_ownless (consistent : Consistent s) (ownless : s.own = []) : s.Truthful := by
  have nothing : s.tasks = [] := by simp [SyncProcess.tasks, ownless]
  constructor
  · intro task response returned
    rw [consistent.stored_iff (by rw [returned]; rfl), nothing]
    simp
  · rintro _ ⟨task, member, _⟩
    simp [nothing] at member

end Counting

section Upserting
variable {b : Backend} {F : Type} {s t : SyncProcess b (RawData F)}

/- What a step of an upsert leaves as it is. -/
structure Advances (s t : SyncProcess b (RawData F)) : Prop where
  world : t.world = s.world
  own : t.own = s.own
  phase : t.phase = s.phase
  owed : (∀ task ∈ s.store.tasks, s.store.Owed task) → ∀ task ∈ t.store.tasks, t.store.Owed task
  upserts : ∀ (j : Nat) task, s.store.tasks[j]? = some task →
    ∃ later, t.store.tasks[j]? = some later ∧ later.upsert = task.upsert

theorem upserts_set {R : Type} {tasks : List (UpsertTask R)} {i : Nat} {u : Upsert R} {stage : UpsertStage R}
    (here : tasks[i]? = some ⟨u, stage⟩) (stage' : UpsertStage R) (j : Nat) (task : UpsertTask R)
    (there : tasks[j]? = some task) : ∃ later, (tasks.set i ⟨u, stage'⟩)[j]? = some later ∧ later.upsert = task.upsert := by
  by_cases own : j = i
  · subst own
    cases here.symm.trans there
    exact ⟨_, List.getElem?_set_self (List.getElem?_eq_some_iff.mp here).1, rfl⟩
  · exact ⟨task, (List.getElem?_set_ne (Ne.symm own)).trans there, rfl⟩

theorem lose_cases {i : Nat} (next : s.lose i = some t) : ∃ u stage, s.store.tasks[i]? = some ⟨u, stage⟩ ∧
    stage.finished = false ∧ t = { s with store := s.store.move i u (.failed databaseError) } := by
  unfold SyncProcess.lose at next
  split at next
  · rename_i u stage here
    split at next
    · contradiction
    · rename_i unfinished
      cases next
      exact ⟨u, stage, here, Bool.eq_false_iff.mpr unfinished, rfl⟩
  · contradiction

theorem lose_advances {i : Nat} (next : s.lose i = some t) : Advances s t := by
  obtain ⟨u, stage, here, _, rfl⟩ := lose_cases next
  refine ⟨rfl, rfl, rfl, fun owed => ?_, upserts_set here _⟩
  have evolves : Evolves s.store (s.store.move i u (.failed databaseError)) := evolves_move here
  exact Parties.forall_set (fun task member => evolves.owed (owed task member)) trivial

theorem upsert_advances [DecidableEq F] {e : UpsertEvent (RawData F)} {store : Snapshots b (RawData F)}
    (next : s.store.step e = some store) : Advances s { s with store := store } := by
  refine ⟨rfl, rfl, rfl, fun owed => (step_owed owed next).2, ?_⟩
  obtain ⟨u, rfl, rfl⟩ | ⟨i, u, existing, rfl, here, rfl, _⟩ | ⟨i, u, existing, table, rfl, here, committed, rfl⟩ |
    ⟨i, u, existing, violation, rfl, here, refused, rfl⟩ := Snapshots.step_cases next
  · intro j task there
    exact ⟨task, (List.getElem?_append_left (List.getElem?_eq_some_iff.mp there).1).trans there, rfl⟩
  · exact upserts_set here _
  · exact upserts_set here _
  · exact upserts_set here _

theorem Advances.valid (advances : Advances s t) (valid : ∀ i ∈ s.own, i < s.store.tasks.length) :
    ∀ i ∈ t.own, i < t.store.tasks.length := by
  intro i own
  rw [advances.own] at own
  obtain ⟨later, there, _⟩ := advances.upserts i _ (List.getElem?_eq_getElem (valid i own))
  exact (List.getElem?_eq_some_iff.mp there).1

/-- Which upserts the request has started does not change. -/
theorem Advances.same_upserts (advances : Advances s t) (valid : ∀ i ∈ s.own, i < s.store.tasks.length) :
    t.tasks.map UpsertTask.upsert = s.tasks.map UpsertTask.upsert := by
  unfold SyncProcess.tasks
  rw [List.map_filterMap, List.map_filterMap, advances.own]
  apply List.filterMap_congr
  intro i own
  have here := List.getElem?_eq_getElem (valid i own)
  obtain ⟨later, there, same⟩ := advances.upserts i _ here
  rw [here, there, Option.map_some, Option.map_some, same]

theorem Advances.consistent (advances : Advances s t) (consistent : Consistent s) : Consistent t where
  owed := advances.owed consistent.owed
  valid := advances.valid consistent.valid
  unspawned unspawned := by
    rw [advances.phase] at unspawned
    rw [advances.own]
    exact consistent.unspawned unspawned
  counted response has := by
    rw [advances.phase] at has
    rw [advances.same_upserts consistent.valid]
    exact consistent.counted response has
  row expected has := by
    rw [advances.phase] at has
    unfold SyncProcess.Recorded
    rw [advances.world]
    exact consistent.row expected has

end Upserting

/- What the service leaves behind: these upserts have been started, in this order. -/
structure Spawned {b : Backend} {R : Type} (s t : SyncProcess b R) (us : List (Upsert R)) : Prop where
  world : t.world = s.world
  owed : (∀ task ∈ s.store.tasks, s.store.Owed task) → ∀ task ∈ t.store.tasks, t.store.Owed task
  valid : (∀ i ∈ s.own, i < s.store.tasks.length) → ∀ i ∈ t.own, i < t.store.tasks.length
  upserts : (∀ i ∈ s.own, i < s.store.tasks.length) →
    t.tasks.map UpsertTask.upsert = s.tasks.map UpsertTask.upsert ++ us
  none : us = [] → t.own = s.own
  waiting : (∀ task ∈ s.store.tasks, task.stage = .waiting) → ∀ task ∈ t.store.tasks, task.stage = .waiting

section Spawning
variable {b : Backend} {R : Type} {s t v : SyncProcess b R}

theorem spawned_nil : Spawned s s [] where
  world := rfl
  owed owed := owed
  valid valid := valid
  upserts _ := (List.append_nil _).symm
  none _ := rfl
  waiting waiting := waiting

theorem Spawned.trans {us vs : List (Upsert R)} (first : Spawned s t us) (second : Spawned t v vs) :
    Spawned s v (us ++ vs) where
  world := second.world.trans first.world
  owed owed := second.owed (first.owed owed)
  valid valid := second.valid (first.valid valid)
  upserts valid := by
    rw [second.upserts (first.valid valid), first.upserts valid, List.append_assoc]
  none none := by
    obtain ⟨one, two⟩ := List.append_eq_nil_iff.mp none
    exact (second.none two).trans (first.none one)
  waiting waiting := second.waiting (first.waiting waiting)

theorem spawned_one (u : Upsert R) : Spawned s (s.spawn u) [u] where
  world := rfl
  owed owed := Parties.forall_append (fun task member => (evolves_create u).owed (owed task member)) trivial
  valid valid := by
    intro i own
    simp only [SyncProcess.spawn, List.length_append, List.length_singleton] at own ⊢
    obtain old | new := List.mem_append.mp own
    · have before := valid i old
      omega
    · cases List.mem_singleton.mp new
      omega
  upserts valid := by
    have old : s.own.filterMap (fun i => (s.store.tasks ++ [⟨u, .waiting⟩])[i]?) = s.tasks := by
      apply List.filterMap_congr
      intro i own
      exact List.getElem?_append_left (valid i own)
    simp [SyncProcess.tasks, SyncProcess.spawn, List.filterMap_append, old]
  none none := by simp at none
  waiting waiting := Parties.forall_append waiting rfl

end Spawning

section Service
variable {b : Backend} {F : Type} {s : SyncProcess b (RawData F)}

/-- A loop starts as many upserts of its type as it counts, and one for each object up to the
first that has no id. -/
theorem syncEach_spec {α : Type} (resourceType owner : String) (detail : α → RawData F) (ms : List (Managed α)) :
    wp (syncEach resourceType owner detail ms) s
      (fun n t => ∃ us, Spawned s t us ∧ us.length = n ∧ (∀ u ∈ us, u.resourceType = resourceType) ∧
        ms.map Managed.id = us.map (fun u => some u.externalId))
      (fun _ t => ∃ us rest, Spawned s t us ∧
        ms.map Managed.id = us.map (fun u => some u.externalId) ++ none :: rest) := by
  induction ms generalizing s with
  | nil => exact ⟨[], spawned_nil, rfl, by simp, rfl⟩
  | cons m ms ih =>
    rw [syncEach]
    cases given : m.id with
    | none => exact ⟨[], ms.map Managed.id, spawned_nil, by simp [given]⟩
    | some id =>
      simp only [wp_bind, wp_modify]
      refine wp_mono ih ?_ ?_
      · rintro n t ⟨us, spawned, length, types, ids⟩
        refine ⟨_, (spawned_one _).trans spawned, by simp [length], ?_, by simp [given, ids]⟩
        intro u member
        obtain rfl | later := List.mem_cons.mp member
        · rfl
        · exact types u later
      · rintro exc t ⟨us, rest, spawned, ids⟩
        exact ⟨_, rest, (spawned_one _).trans spawned, by simp [given, ids]⟩

theorem countP_uniform {us : List (Upsert (RawData F))} {resourceType : String}
    (types : ∀ u ∈ us, u.resourceType = resourceType) (other : String) :
    us.countP (fun u => decide (u.resourceType = other)) = if resourceType = other then us.length else 0 := by
  split
  · rename_i same
    rw [List.countP_eq_length]
    intro u member
    exact decide_eq_true ((types u member).trans same)
  · rename_i differs
    rw [List.countP_eq_zero]
    intro u member is
    exact differs ((types u member).symm.trans (of_decide_eq_true is))

/-- Upserts are started unless the first object has no id. -/
theorem unstarted_iff {vcenter : VCenter} {us : List (Upsert (RawData F))} (rest : List (Option String))
    (ids : vcenter.ids = us.map (fun u => some u.externalId) ++ rest) (stopped : ∀ id ∈ rest.head?, id = none) :
    us = [] ↔ vcenter.Unstarted := by
  unfold VCenter.Unstarted
  rw [ids]
  cases us with
  | nil => simpa using stopped
  | cons u us => simp

/-- The service counts the upserts that it has started. -/
theorem syncInventory_spec (ar : Arithmetic F) (lower : String → String) (vcenter : VCenter)
    (operationTaskId : Option Nat) :
    wp (syncInventory ar lower vcenter operationTaskId) s
      (fun response t => ∃ us, Spawned s t us ∧ Counts response us ∧ (us = [] ↔ vcenter.Unstarted))
      (fun _ t => ∃ us, Spawned s t us ∧ (us = [] ↔ vcenter.Unstarted)) := by
  have refused (none : vcenter.ids = []) : [] = ([] : List (Upsert (RawData F))) ↔ vcenter.Unstarted :=
    unstarted_iff [] none (by simp)
  unfold syncInventory
  simp only [wp_bind]
  cases listedVms : vcenter.vms with
  | error exc => exact ⟨[], spawned_nil, refused (by simp [VCenter.ids, listedVms])⟩
  | ok vms =>
    cases listedDatastores : vcenter.datastores with
    | error exc => exact ⟨[], spawned_nil, refused (by simp [VCenter.ids, listedDatastores])⟩
    | ok datastores =>
      cases listedNetworks : vcenter.networks with
      | error exc => exact ⟨[], spawned_nil, refused (by simp [VCenter.ids, listedNetworks])⟩
      | ok networks =>
        have ids : vcenter.ids =
            vms.map Managed.id ++ (datastores.map Managed.id ++ networks.map Managed.id) := by
          simp [VCenter.ids, listedVms, listedDatastores, listedNetworks]
        simp only [answered, wp_pure]
        refine wp_mono (syncEach_spec _ _ _ vms) ?_ ?_
        · rintro n t ⟨us, spawned, rfl, ofVms, idsVms⟩
          refine wp_mono (syncEach_spec _ _ _ datastores) ?_ ?_
          · rintro n t' ⟨vs, spawned', rfl, ofDatastores, idsDatastores⟩
            refine wp_mono (syncEach_spec _ _ _ networks) ?_ ?_
            · rintro n t'' ⟨ws, spawned'', rfl, ofNetworks, idsNetworks⟩
              refine ⟨_, (spawned.trans spawned').trans spawned'', ⟨?_, ?_, ?_, ?_⟩,
                unstarted_iff [] ?_ (by simp)⟩
              · simp [countP_uniform ofVms, countP_uniform ofDatastores, countP_uniform ofNetworks]
              · simp [countP_uniform ofVms, countP_uniform ofDatastores, countP_uniform ofNetworks]
              · simp [countP_uniform ofVms, countP_uniform ofDatastores, countP_uniform ofNetworks]
              · intro u member
                simp only [List.mem_append] at member
                obtain (one | two) | three := member
                · simp [ofVms u one]
                · simp [ofDatastores u two]
                · simp [ofNetworks u three]
              · simp [ids, idsVms, idsDatastores, idsNetworks]
            · rintro exc t'' ⟨ws, rest, spawned'', idsNetworks⟩
              refine ⟨_, (spawned.trans spawned').trans spawned'', unstarted_iff (none :: rest) ?_ (by simp)⟩
              simp [ids, idsVms, idsDatastores, idsNetworks]
          · rintro exc t' ⟨vs, rest, spawned', idsDatastores⟩
            refine ⟨_, spawned.trans spawned',
              unstarted_iff (none :: rest ++ networks.map Managed.id) ?_ (by simp)⟩
            simp [ids, idsVms, idsDatastores]
        · rintro exc t ⟨us, rest, spawned, idsVms⟩
          refine ⟨_, spawned, unstarted_iff
            (none :: rest ++ (datastores.map Managed.id ++ networks.map Managed.id)) ?_ (by simp)⟩
          simp [ids, idsVms]

end Service

section Endpoint
variable {b : Backend} {F : Type} {ar : Arithmetic F} {site : Site} {vcenter : VCenter}
  {s t : SyncProcess b (RawData F)}

/-- An update that the database answers. -/
theorem perform_update {task : Nat} {before : TaskState} (there : s.Recorded task before)
    (up : site.env.databaseUp s.world.tick = true) (state : TaskState) (message : Option String)
    (done : Unit → SyncPhase) (failed : Exc → SyncPhase) :
    ∃ w, s.perform (updateTask site.env task state .none message) done failed =
        { s with world := w, phase := done () } ∧ (w.tasks[task]?).map OperationTask.state = some state := by
  obtain ⟨row, here, _⟩ := Option.map_eq_some_iff.mp there
  refine ⟨_, by rw [SyncProcess.perform, updateTask_up up here], ?_⟩
  simp [List.getElem?_set_self (List.getElem?_eq_some_iff.mp here).1, OperationTask.update]

/-- An update that the database does not answer. -/
theorem perform_lost (down : site.env.databaseUp s.world.tick = false) (task : Nat) (state : TaskState)
    (message : Option String) (done : Unit → SyncPhase) (failed : Exc → SyncPhase) :
    s.perform (updateTask site.env task state .none message) done failed =
      { s with world := { s.world with tick := s.world.tick + 1 }, phase := failed databaseError } := by
  rw [SyncProcess.perform, updateTask_down down]

/-- What the endpoint does next: before it calls the service, when it does, and when it sets its
task to succeeded or to failed. -/
theorem SyncProcess.proceed_cases (consistent : Consistent s) (next : s.proceed ar site vcenter = some t) :
    (∃ w phase, s.own = [] ∧ t = { s with world := w, phase := phase } ∧ phase.response = none ∧
      ∀ expected ∈ phase.expects, t.Recorded expected.1 expected.2) ∨
    (∃ task us v response, s.phase = .running task ∧ Spawned s v us ∧ Counts response us ∧
      (us = [] ↔ vcenter.Unstarted) ∧ t = { v with phase := .synced task response }) ∨
    (∃ task us v exc, s.phase = .running task ∧ Spawned s v us ∧ (us = [] ↔ vcenter.Unstarted) ∧
      t = { v with phase := .failing task exc }) ∨
    (∃ task response w, s.phase = .synced task response ∧ site.env.databaseUp s.world.tick = true ∧
      t = { s with world := w, phase := .returned task response } ∧ t.Recorded task .succeeded) ∨
    (∃ task response w, s.phase = .synced task response ∧ site.env.databaseUp s.world.tick = false ∧
      t = { s with world := w, phase := .failing task databaseError } ∧ t.Recorded task .running) ∨
    (∃ task exc w, s.phase = .failing task exc ∧ site.env.databaseUp s.world.tick = true ∧
      t = { s with world := w, phase := .raised (some task) exc } ∧ t.Recorded task .failed) ∨
    (∃ task exc w, s.phase = .failing task exc ∧ site.env.databaseUp s.world.tick = false ∧
      t = { s with world := w, phase := .raised (some task) databaseError } ∧ t.Recorded task .running) := by
  unfold SyncProcess.proceed at next
  cases phase : s.phase with
  | requested =>
    have none := consistent.unspawned (by rw [phase]; rfl)
    simp only [phase, Option.some.injEq] at next
    cases up : site.env.databaseUp s.world.tick with
    | true =>
      simp only [SyncProcess.perform, createTask_up up] at next
      subst next
      refine .inl ⟨_, _, none, rfl, rfl, ?_⟩
      intro expected has
      cases has
      simp [SyncProcess.Recorded]
    | false =>
      simp only [SyncProcess.perform, createTask_down up] at next
      subst next
      exact .inl ⟨_, _, none, rfl, rfl, by simp [SyncPhase.expects]⟩
  | queued task =>
    have none := consistent.unspawned (by rw [phase]; rfl)
    have there := consistent.row (task, .queued) (by rw [phase]; rfl)
    simp only [phase, Option.some.injEq] at next
    cases up : site.env.databaseUp s.world.tick with
    | true =>
      obtain ⟨w, ran, recorded⟩ := perform_update there up .running .none (fun _ => .running task) (.raised (some task))
      rw [ran] at next
      subst next
      refine .inl ⟨w, _, none, rfl, rfl, ?_⟩
      intro expected has
      cases has
      exact recorded
    | false =>
      rw [perform_lost up] at next
      subst next
      exact .inl ⟨_, _, none, rfl, rfl, by simp [SyncPhase.expects]⟩
  | running task =>
    simp only [phase] at next
    have spec := @syncInventory_spec b F s ar site.lower vcenter (some task)
    split at next
    · rename_i response v ran
      obtain ⟨us, spawned, counts, started⟩ := wp_of_ok spec ran
      cases next
      exact .inr (.inl ⟨task, us, v, response, rfl, spawned, counts, started, rfl⟩)
    · rename_i exc v ran
      obtain ⟨us, spawned, started⟩ := wp_of_error spec ran
      cases next
      exact .inr (.inr (.inl ⟨task, us, v, exc, rfl, spawned, started, rfl⟩))
  | synced task response =>
    have there := consistent.row (task, .running) (by rw [phase]; rfl)
    simp only [phase, Option.some.injEq] at next
    cases up : site.env.databaseUp s.world.tick with
    | true =>
      obtain ⟨w, ran, recorded⟩ := perform_update there up .succeeded .none (fun _ => .returned task response)
        (.failing task)
      rw [ran] at next
      subst next
      exact .inr (.inr (.inr (.inl ⟨task, response, w, rfl, rfl, rfl, recorded⟩)))
    | false =>
      rw [perform_lost up] at next
      subst next
      exact .inr (.inr (.inr (.inr (.inl ⟨task, response, _, rfl, rfl, rfl, there⟩))))
  | failing task exc =>
    have there := consistent.row (task, .running) (by rw [phase]; rfl)
    simp only [phase, Option.some.injEq] at next
    cases up : site.env.databaseUp s.world.tick with
    | true =>
      obtain ⟨w, ran, recorded⟩ := perform_update there up .failed (some exc.message) (fun _ => .raised (some task) exc)
        (.raised (some task))
      rw [ran] at next
      subst next
      exact .inr (.inr (.inr (.inr (.inr (.inl ⟨task, exc, w, rfl, rfl, rfl, recorded⟩)))))
    | false =>
      rw [perform_lost up] at next
      subst next
      exact .inr (.inr (.inr (.inr (.inr (.inr ⟨task, exc, _, rfl, rfl, rfl, there⟩)))))
  | returned task response =>
    rw [phase] at next
    contradiction
  | raised task exc =>
    rw [phase] at next
    contradiction

/-- The operation task and the phase of the endpoint have moved on together. -/
theorem Consistent.moved (consistent : Consistent s) {w : World} {phase : SyncPhase}
    (unspawned : phase.spawned = false → s.own = []) (same : ∀ response ∈ phase.response, s.phase.response = some response)
    (row : ∀ expected ∈ phase.expects, (w.tasks[expected.1]?).map OperationTask.state = some expected.2) :
    Consistent { s with world := w, phase := phase } where
  owed := consistent.owed
  valid := consistent.valid
  unspawned := unspawned
  counted response has := consistent.counted response (same response has)
  row := row

/-- The service has been called, and the upserts that it has started are those of the request. -/
theorem Consistent.called (consistent : Consistent s) {task : Nat} (running : s.phase = .running task)
    {v : SyncProcess b (RawData F)} {us : List (Upsert (RawData F))} (spawned : Spawned s v us) {phase : SyncPhase}
    (after : phase.spawned = true) (counts : ∀ response ∈ phase.response, Counts response us)
    (expects : phase.expects = some (task, .running)) : Consistent { v with phase := phase } where
  owed := spawned.owed consistent.owed
  valid := spawned.valid consistent.valid
  unspawned before := absurd (after.symm.trans before) (by simp)
  counted response has := by
    have none : s.own = [] := consistent.unspawned (by rw [running]; rfl)
    have all : v.tasks.map UpsertTask.upsert = us := by
      rw [spawned.upserts consistent.valid, SyncProcess.tasks, none]
      rfl
    change Counts response (v.tasks.map UpsertTask.upsert)
    rw [all]
    exact counts response has
  row expected has := by
    cases expects.symm.trans has
    have there := consistent.row (task, .running) (by rw [running]; rfl)
    unfold SyncProcess.Recorded at there ⊢
    change (v.world.tasks[task]?).map OperationTask.state = some .running
    rw [spawned.world]
    exact there

theorem proceed_consistent (consistent : Consistent s) (next : s.proceed ar site vcenter = some t) : Consistent t := by
  obtain ⟨w, phase, none, rfl, silent, row⟩ | ⟨task, us, v, response, running, spawned, counts, _, rfl⟩ |
    ⟨task, us, v, exc, running, spawned, _, rfl⟩ | ⟨task, response, w, phase, _, rfl, recorded⟩ |
    ⟨task, response, w, phase, _, rfl, recorded⟩ | ⟨task, exc, w, phase, _, rfl, _⟩ |
    ⟨task, exc, w, phase, _, rfl, _⟩ := SyncProcess.proceed_cases consistent next
  · refine consistent.moved (fun _ => none) (fun response has => ?_) row
    exact absurd (silent.symm.trans has) (by simp)
  · refine consistent.called running spawned rfl (fun other same => ?_) rfl
    cases same
    exact counts
  · exact consistent.called running spawned rfl (by simp [SyncPhase.response]) rfl
  · refine consistent.moved (by simp [SyncPhase.spawned]) (fun other same => ?_) (fun expected has => ?_)
    · rw [phase]
      exact same
    · cases has
      exact recorded
  · refine consistent.moved (by simp [SyncPhase.spawned]) (by simp [SyncPhase.response]) (fun expected has => ?_)
    cases has
    exact recorded
  · exact consistent.moved (by simp [SyncPhase.spawned]) (by simp [SyncPhase.response]) (by simp [SyncPhase.expects])
  · exact consistent.moved (by simp [SyncPhase.spawned]) (by simp [SyncPhase.response]) (by simp [SyncPhase.expects])

/-- Where no upsert is started, the request never has one. -/
theorem proceed_ownless (consistent : Consistent s) (unstarted : vcenter.Unstarted) (ownless : s.own = [])
    (next : s.proceed ar site vcenter = some t) : t.own = [] := by
  obtain ⟨w, phase, none, rfl, _⟩ | ⟨task, us, v, response, _, spawned, _, started, rfl⟩ |
    ⟨task, us, v, exc, _, spawned, started, rfl⟩ | ⟨task, response, w, _, _, rfl, _⟩ |
    ⟨task, response, w, _, _, rfl, _⟩ | ⟨task, exc, w, _, _, rfl, _⟩ | ⟨task, exc, w, _, _, rfl, _⟩ :=
    SyncProcess.proceed_cases consistent next
  · exact ownless
  · exact (spawned.none (started.mpr unstarted)).trans ownless
  · exact (spawned.none (started.mpr unstarted)).trans ownless
  · exact ownless
  · exact ownless
  · exact ownless
  · exact ownless

end Endpoint

section Runs
variable {b : Backend} {F : Type}

/- A request that has just come in. Upserts of other syncs may join at any time. -/
def SyncProcess.begin (world : World) (table : SnapshotTable b (RawData F)) : SyncProcess b (RawData F) :=
  ⟨world, ⟨table, []⟩, [], .requested⟩

theorem begin_consistent (world : World) (table : SnapshotTable b (RawData F)) : Consistent (.begin world table) where
  owed _ member := (List.not_mem_nil member).elim
  valid _ own := (List.not_mem_nil own).elim
  unspawned _ := rfl
  counted response has := by simp [SyncProcess.begin, SyncPhase.response] at has
  row expected has := by simp [SyncProcess.begin, SyncPhase.expects] at has

variable [DecidableEq F] {ar : Arithmetic F} {site : Site} {vcenter : VCenter}
  {s t : SyncProcess b (RawData F)}

theorem sync_step_consistent {e : SyncEvent (RawData F)} (consistent : Consistent s)
    (next : s.step ar site vcenter e = some t) : Consistent t := by
  cases e with
  | proceed => exact proceed_consistent consistent next
  | upsert e =>
    obtain ⟨store, moved, rfl⟩ := Option.map_eq_some_iff.mp next
    exact (upsert_advances moved).consistent consistent
  | outage i => exact (lose_advances next).consistent consistent

/-- A sync that starts no upsert has nothing to be wrong about, whatever the database does. -/
theorem unstarted_sync_truthful (unstarted : vcenter.Unstarted) {world : World} {table : SnapshotTable b (RawData F)}
    {events : List (SyncEvent (RawData F))}
    (run : Runs.exec (SyncProcess.step ar site vcenter) (.begin world table) events = some s) :
    Runs.Always (SyncProcess.step ar site vcenter) SyncProcess.Truthful (.begin world table) events := by
  have start : Consistent (SyncProcess.begin world table) ∧ (SyncProcess.begin world table).own = [] :=
    ⟨begin_consistent world table, rfl⟩
  refine Runs.always_of_invariant (SyncProcess.step ar site vcenter) (I := fun s => Consistent s ∧ s.own = []) ?_
    (fun s held => truthful_of_ownless held.1 held.2) start run
  rintro s e t ⟨consistent, ownless⟩ next
  refine ⟨sync_step_consistent consistent next, ?_⟩
  cases e with
  | proceed => exact proceed_ownless consistent unstarted ownless next
  | upsert e =>
    obtain ⟨store, moved, rfl⟩ := Option.map_eq_some_iff.mp next
    exact ownless
  | outage i => exact (lose_advances next).own.trans ownless

end Runs

/- A site whose database answers the first `statements` statements of the endpoint. -/
def siteAnswering (statements : Nat) : Site where
  env := {
    ready := true, listLimit := 1000, connect := fun _ => none, sdk := fun _ _ => { result := .ok ⟨.none, none⟩ }
    wall := id, lag := fun _ => 0, redisUp := fun _ => true, databaseUp := fun n => decide (n < statements)
    uuid := toString }
  vcenter := fun _ => .ok []
  lower := id
  strftime := toString
  isoformat := toString

def emptyTable {b : Backend} {R : Type} : SnapshotTable b R :=
  ⟨[], List.nodup_nil, fun _ member => (List.not_mem_nil member).elim⟩

section Overstating
variable {b : Backend} {F : Type} [DecidableEq F] {ar : Arithmetic F} {site : Site} {vcenter : VCenter}
  {s t : SyncProcess b (RawData F)}

/-- An upsert that nobody waits for fails after its request has ended, with the task still running. -/
theorem abandoned_untruthful {task i : Nat} {exc : Exc} {u : Upsert (RawData F)} (failing : s.phase = .failing task exc)
    (recorded : s.Recorded task .running) (down : site.env.databaseUp s.world.tick = false) (own : i ∈ s.own)
    (here : s.store.tasks[i]? = some ⟨u, .waiting⟩) :
    ∃ t, Runs.exec (SyncProcess.step ar site vcenter) s [.proceed, .outage i] = some t ∧ ¬ t.Truthful := by
  have raised : s.step ar site vcenter .proceed = some
      { s with world := { s.world with tick := s.world.tick + 1 }, phase := .raised (some task) databaseError } := by
    simp only [SyncProcess.step, SyncProcess.proceed, failing]
    rw [perform_lost down]
  have lost : SyncProcess.step ar site vcenter
      { s with world := { s.world with tick := s.world.tick + 1 }, phase := .raised (some task) databaseError }
        (.outage i) = some
      { s with
        world := { s.world with tick := s.world.tick + 1 }, phase := .raised (some task) databaseError
        store := s.store.move i u (.failed databaseError) } := by
    simp [SyncProcess.step, SyncProcess.lose, here, UpsertStage.finished]
  refine ⟨_, (Runs.exec_cons _).mpr ⟨_, raised, (Runs.exec_cons _).mpr ⟨_, lost, rfl⟩⟩, fun truthful => ?_⟩
  have failed := truthful.failed rfl ⟨⟨u, .failed databaseError⟩, mem_own_tasks.mpr ⟨i, own, ?_⟩, rfl⟩
  · have both := recorded.symm.trans failed
    simp at both
  · exact List.getElem?_set_self (List.getElem?_eq_some_iff.mp here).1

/-- Once the first object has an id, the service leaves an upsert behind that has yet to run. -/
theorem running_leaves {task : Nat} (started : ¬ vcenter.Unstarted) (consistent : Consistent s)
    (running : s.phase = .running task) (idle : s.store.tasks = []) :
    ∃ (v : SyncProcess b (RawData F)) (phase : SyncPhase) (i : Nat) (u : Upsert (RawData F)),
      s.step ar site vcenter .proceed = some { v with phase := phase } ∧ v.world = s.world ∧ i ∈ v.own ∧ v.store.tasks[i]? = some ⟨u, .waiting⟩ ∧
      ((∃ response, phase = .synced task response) ∨ ∃ exc, phase = .failing task exc) := by
  have leaves {v : SyncProcess b (RawData F)} {us : List (Upsert (RawData F))} (spawned : Spawned s v us)
      (some_upsert : us = [] ↔ vcenter.Unstarted) : ∃ i ∈ v.own, ∃ u, v.store.tasks[i]? = some ⟨u, .waiting⟩ := by
    have upserts := spawned.upserts consistent.valid
    obtain ⟨u, us, rfl⟩ := List.exists_cons_of_ne_nil (fun none => started (some_upsert.mp none))
    have member : u ∈ v.tasks.map UpsertTask.upsert := by simp [upserts]
    obtain ⟨⟨u, stage⟩, inside, rfl⟩ := List.mem_map.mp member
    obtain ⟨i, own, here⟩ := mem_own_tasks.mp inside
    have waiting := spawned.waiting (by simp [idle]) _ (List.mem_of_getElem? here)
    exact ⟨i, own, u, here.trans (by rw [← waiting])⟩
  have spec := @syncInventory_spec b F s ar site.lower vcenter (some task)
  simp only [SyncProcess.step, SyncProcess.proceed, running]
  cases ran : syncInventory ar site.lower vcenter (some task) s with
  | ok response v =>
    obtain ⟨us, spawned, _, some_upsert⟩ := wp_of_ok spec ran
    obtain ⟨i, own, u, here⟩ := leaves spawned some_upsert
    exact ⟨v, _, i, u, rfl, spawned.world, own, here, .inl ⟨response, rfl⟩⟩
  | error exc v =>
    obtain ⟨us, spawned, some_upsert⟩ := wp_of_error spec ran
    obtain ⟨i, own, u, here⟩ := leaves spawned some_upsert
    exact ⟨v, _, i, u, rfl, spawned.world, own, here, .inr ⟨exc, rfl⟩⟩

/-- Over any objects, with an id or without, a sync is truthful whatever the schedule and the
database do exactly when it starts no upsert. -/
theorem sync_always_truthful_iff (ar : Arithmetic F) (vcenter : VCenter) :
    (∀ (site : Site) (world : World) (table : SnapshotTable b (RawData F)) (events : List (SyncEvent (RawData F)))
      (s : SyncProcess b (RawData F)),
      Runs.exec (SyncProcess.step ar site vcenter) (.begin world table) events = some s →
      Runs.Always (SyncProcess.step ar site vcenter) SyncProcess.Truthful (.begin world table) events) ↔
    vcenter.Unstarted := by
  constructor
  · intro always
    by_contra started
    obtain ⟨w, begun, two, row⟩ : ∃ w : World, Runs.exec (SyncProcess.step ar (siteAnswering 2) vcenter)
        (.begin .initial emptyTable) [.proceed, .proceed] =
          some (⟨w, ⟨(emptyTable : SnapshotTable b (RawData F)), []⟩, [], .running 0⟩ : SyncProcess b (RawData F)) ∧
        w.tick = 2 ∧ (w.tasks[0]?).map OperationTask.state = some .running := ⟨_, rfl, rfl, rfl⟩
    have consistent := Runs.invariant (I := Consistent) _ (fun _ _ _ => sync_step_consistent)
      (begin_consistent .initial emptyTable) begun
    obtain ⟨v, phase, i, u, next, world, own, here, ends⟩ := @running_leaves b F _ ar (siteAnswering 2) vcenter _ 0
      started consistent rfl rfl
    have late (n : Nat) : (siteAnswering 2).env.databaseUp (v.world.tick + n) = false := by
      simp only [siteAnswering, world, two, decide_eq_false_iff_not]
      omega
    have recorded : v.Recorded 0 .running := by
      unfold SyncProcess.Recorded
      rw [world]
      exact row
    obtain ⟨t, events, run, untruthful⟩ : ∃ t events, Runs.exec (SyncProcess.step ar (siteAnswering 2) vcenter)
        { v with phase := phase } events = some t ∧ ¬ t.Truthful := by
      obtain ⟨response, rfl⟩ | ⟨exc, rfl⟩ := ends
      · have lost : SyncProcess.step ar (siteAnswering 2) vcenter { v with phase := .synced 0 response } .proceed =
            some { v with
              world := { v.world with tick := v.world.tick + 1 }, phase := .failing 0 databaseError } := by
          have unanswered := @perform_lost b F (siteAnswering 2) { v with phase := .synced 0 response } (late 0) 0
            .succeeded none (fun _ => .returned 0 response) (.failing 0)
          exact congrArg some unanswered
        obtain ⟨t, run, untruthful⟩ := @abandoned_untruthful b F _ ar (siteAnswering 2) vcenter { v with
          world := { v.world with tick := v.world.tick + 1 }, phase := .failing 0 databaseError } 0 i databaseError u
          rfl recorded (late 1) own here
        exact ⟨t, _, (Runs.exec_cons _).mpr ⟨_, lost, run⟩, untruthful⟩
      · obtain ⟨t, run, untruthful⟩ := @abandoned_untruthful b F _ ar (siteAnswering 2) vcenter { v with
          phase := .failing 0 exc } 0 i exc u rfl recorded (late 0) own here
        exact ⟨t, _, run, untruthful⟩
    have whole := (Runs.exec_append _).mpr ⟨_, begun, (Runs.exec_cons _).mpr ⟨_, next, run⟩⟩
    exact untruthful (Runs.last_of_always _ (always (siteAnswering 2) .initial emptyTable _ t whole) whole)
  · exact fun unstarted site world table events s run => unstarted_sync_truthful unstarted run

end Overstating

end VMachine.VMware
