import Mathlib.Algebra.Ring.Rat
import VMachine.Lib.Dict
import VMachine.Lib.FirstSeen
import VMachine.Lib.StableSort
import VMachine.Lib.Python

/-! The usage of hypervisors and of projects. Both are read off lists of records that come newest
first. A hypervisor's CPU usage is taken from the first record of its source, everything else from
a dictionary that is filled in the order of the list, in which the oldest record stays.

`F` is the type of a float column and `L` that of a JSON value; `intValue` and `intLabel` are
`int()` of them, which raises for some (a value that is not finite, a label that is null). -/
namespace VMachine.Monitoring

/- The columns of metric_records that are read here. -/
structure Row (F L : Type) where
  metricName : String
  source : String
  value : F
  labels : Option (List (String × L)) := none
  projectId : Option String := none
  recordedAt : Nat
  deriving Repr

structure HypervisorUsage (F : Type) where
  hypervisor : String
  cpuUsage : F
  memoryUsage : F
  memoryTotalMb : Int
  memoryUsedMb : Int
  diskUsage : F
  runningVms : Int
  deriving Repr, DecidableEq

structure ProjectUsage where
  projectId : String
  projectName : Option String := none
  instanceCount : Int
  totalVcpus : Int
  totalRamMb : Int
  totalDiskGb : Int
  deriving Repr, DecidableEq

section Queries
variable {F L : Type}

/- `.order_by(recorded_at.desc()).limit(n)`. -/
def newestFirst (limit : Nat) (rows : List (Row F L)) : List (Row F L) :=
  (rows.insertionSort (fun a b => b.recordedAt ≤ a.recordedAt)).take limit

def ofMetric (records : List (Row F L)) (name : String) : List (Row F L) :=
  records.filter (fun r => decide (r.metricName = name))

def ofSource (rows : List (Row F L)) (source : String) : List (Row F L) :=
  rows.filter (fun r => decide (r.source = source))

/- One of the four queries of `get_hypervisor_usage`. -/
def hypervisorRecords (records : List (Row F L)) (name : String) : List (Row F L) :=
  newestFirst 50 (ofMetric records name)

/- `{r.source: r for r in ...}.get(source)`. -/
def recordOf (records : List (Row F L)) (name source : String) : Option (Row F L) :=
  Dict.find (Dict.build Row.source id (hypervisorRecords records name)) source

/- `{r.source for r in cpu_records}`: a set, which is iterated in an order of its own. -/
def sources (order : List String → List String) (records : List (Row F L)) : List String :=
  order (FirstSeen.unique id ((hypervisorRecords records "hypervisor_cpu_usage").map Row.source))

end Queries

section Hypervisors
variable {F L ε : Type} (intValue : F → Except ε Int) (intLabel : L → Except ε Int)

/- `r.value if r else 0.0`. -/
def valueOf [Zero F] (r : Option (Row F L)) : F := (r.map Row.value).getD 0

/- `int(r.value) if r else 0`. -/
def countOf (r : Option (Row F L)) : Except ε Int :=
  match r with
  | none => .ok 0
  | some r => intValue r.value

/- `int(r.labels.get(key, 0)) if r and r.labels else 0`. -/
def labelOf (key : String) (r : Option (Row F L)) : Except ε Int :=
  match r with
  | none => .ok 0
  | some r =>
    match r.labels with
    | none => .ok 0
    | some labels =>
      if labels.isEmpty then .ok 0
      else
        match labels.lookup key with
        | none => .ok 0
        | some v => intLabel v

variable [Zero F]

def hypervisorUsage (source : String) (cpu mem disk vm : Option (Row F L)) : Except ε (HypervisorUsage F) := do
  let total ← labelOf intLabel "total_mb" mem
  let used ← labelOf intLabel "used_mb" mem
  let vms ← countOf intValue vm
  return {
    hypervisor := source
    cpuUsage := valueOf cpu
    memoryUsage := valueOf mem
    memoryTotalMb := total
    memoryUsedMb := used
    diskUsage := valueOf disk
    runningVms := vms }

def getHypervisorUsage (order : List String → List String) (records : List (Row F L)) :
    Except ε (List (HypervisorUsage F)) :=
  (sources order records).mapM (fun source =>
    hypervisorUsage intValue intLabel source
      ((hypervisorRecords records "hypervisor_cpu_usage").find? (fun r => decide (r.source = source)))
      (recordOf records "hypervisor_memory_usage" source)
      (recordOf records "hypervisor_disk_usage" source)
      (recordOf records "hypervisor_running_vms" source))

end Hypervisors

section Projects
variable {F L ε : Type} (intValue : F → Except ε Int)

/- `r.project_id or "unknown"`. -/
def pid (r : Row F L) : String := (Py.nonempty r.projectId).getD "unknown"

/- `grouped[pid][r.metric_name] = r.value`, after `grouped[pid] = {}` for a new project. -/
def groupRecord (grouped : List (String × List (String × F))) (r : Row F L) : List (String × List (String × F)) :=
  Dict.set (pid r) (Dict.set r.metricName r.value ((Dict.find grouped (pid r)).getD [])) grouped

/- `int(m.get(name, 0))`. -/
def metricOf (metrics : List (String × F)) (name : String) : Except ε Int :=
  match Dict.find metrics name with
  | none => .ok 0
  | some value => intValue value

def projectUsage (project : String) (metrics : List (String × F)) : Except ε ProjectUsage := do
  let instances ← metricOf intValue metrics "project_instance_count"
  let vcpus ← metricOf intValue metrics "project_total_vcpus"
  let ram ← metricOf intValue metrics "project_total_ram_mb"
  let disk ← metricOf intValue metrics "project_total_disk_gb"
  return {
    projectId := project
    instanceCount := instances
    totalVcpus := vcpus
    totalRamMb := ram
    totalDiskGb := disk }

/- `like` is the database's LIKE 'project_%', which may or may not ignore case. -/
def getProjectUsage (like : String → Bool) (records : List (Row F L)) : Except ε (List ProjectUsage) :=
  let found := newestFirst 200 (records.filter (fun r => like r.metricName))
  let grouped := found.foldl groupRecord []
  grouped.mapM (fun entry => projectUsage intValue entry.1 entry.2)

end Projects

section Times
variable {F L : Type}

/- The most recent and the least recent record of a metric for a source. -/
def newest (records : List (Row F L)) (name source : String) : Option (Row F L) :=
  (ofSource (ofMetric records name) source).argmax Row.recordedAt

def oldest (records : List (Row F L)) (name source : String) : Option (Row F L) :=
  (ofSource (ofMetric records name) source).argmin Row.recordedAt

theorem newestFirst_perm {limit : Nat} {rows : List (Row F L)} (few : rows.length ≤ limit) :
    (newestFirst limit rows).Perm rows := by
  have sorted := List.perm_insertionSort (fun a b : Row F L => b.recordedAt ≤ a.recordedAt) rows
  have all : newestFirst limit rows = rows.insertionSort (fun a b => b.recordedAt ≤ a.recordedAt) := by
    apply List.take_of_length_le
    rw [sorted.length_eq]
    exact few
  rw [all]
  exact sorted

theorem newestFirst_descending (limit : Nat) (rows : List (Row F L)) :
    (newestFirst limit rows).Pairwise (fun a b => b.recordedAt ≤ a.recordedAt) := by
  have total : Std.Total (fun a b : Row F L => b.recordedAt ≤ a.recordedAt) := ⟨fun a b => Nat.le_total ..⟩
  have trans : IsTrans (Row F L) (fun a b => b.recordedAt ≤ a.recordedAt) := ⟨fun _ _ _ ab bc => Nat.le_trans bc ab⟩
  exact (List.pairwise_insertionSort _ rows).sublist (List.take_sublist limit _)

/- The records of the metric are few enough for the query, and no two bear one time. -/
structure Queried (limit : Nat) (rows : List (Row F L)) : Prop where
  few : rows.length ≤ limit
  distinct : (rows.map Row.recordedAt).Nodup

variable {limit : Nat} {rows : List (Row F L)} (queried : Queried limit rows) (p : Row F L → Bool)
include queried

/-- The first record of a kind in the answer of a query is the most recent one. -/
theorem first_newest : (newestFirst limit rows).find? p = (rows.filter p).argmax Row.recordedAt := by
  rw [← List.head?_filter]
  exact Dict.head_eq_argmax ((newestFirst_perm queried.few).filter p) ((newestFirst_descending limit rows).filter p)
    (queried.distinct.sublist (List.filter_sublist.map Row.recordedAt))

/-- The last one is the oldest. -/
theorem last_oldest : ((newestFirst limit rows).filter p).getLast? = (rows.filter p).argmin Row.recordedAt :=
  Dict.getLast_eq_argmin ((newestFirst_perm queried.few).filter p) ((newestFirst_descending limit rows).filter p)
    (queried.distinct.sublist (List.filter_sublist.map Row.recordedAt))

end Times

section CurrentHypervisors
variable {F L ε : Type}

/-- The dictionary of a metric holds the oldest record of each source. -/
theorem recordOf_eq_oldest {records : List (Row F L)} {name : String} (queried : Queried 50 (ofMetric records name))
    (source : String) : recordOf records name source = oldest records name source := by
  unfold recordOf hypervisorRecords
  rw [Dict.find_build, last_oldest queried, Option.map_id]
  rfl

/-- The sources are those of the CPU records, each once. -/
theorem sources_of_cpu {order : List String → List String} {records : List (Row F L)}
    (enumerates : ∀ names, (order names).Perm names) (queried : Queried 50 (ofMetric records "hypervisor_cpu_usage")) :
    (sources order records).Nodup ∧
    ∀ source, source ∈ sources order records ↔ source ∈ (ofMetric records "hypervisor_cpu_usage").map Row.source := by
  have perm := (newestFirst_perm queried.few).map Row.source
  have distinct := FirstSeen.nodup_keys_unique id ((hypervisorRecords records "hypervisor_cpu_usage").map Row.source)
  rw [List.map_id] at distinct
  refine ⟨(enumerates _).nodup_iff.mpr distinct, fun source => ?_⟩
  have kept := @FirstSeen.mem_keys_unique _ _ _ id ((hypervisorRecords records "hypervisor_cpu_usage").map Row.source) source
  rw [List.map_id, List.map_id] at kept
  rw [sources, (enumerates _).mem_iff, kept]
  exact perm.mem_iff

variable [Zero F] (intValue : F → Except ε Int) (intLabel : L → Except ε Int)

def hypervisorMetrics : List String :=
  ["hypervisor_cpu_usage", "hypervisor_memory_usage", "hypervisor_disk_usage", "hypervisor_running_vms"]

/- Every field comes from the most recent record. -/
structure HypervisorUsage.Current (records : List (Row F L)) (u : HypervisorUsage F) : Prop where
  cpu : u.cpuUsage = valueOf (newest records "hypervisor_cpu_usage" u.hypervisor)
  memory : u.memoryUsage = valueOf (newest records "hypervisor_memory_usage" u.hypervisor)
  total : labelOf intLabel "total_mb" (newest records "hypervisor_memory_usage" u.hypervisor) = .ok u.memoryTotalMb
  used : labelOf intLabel "used_mb" (newest records "hypervisor_memory_usage" u.hypervisor) = .ok u.memoryUsedMb
  disk : u.diskUsage = valueOf (newest records "hypervisor_disk_usage" u.hypervisor)
  vms : countOf intValue (newest records "hypervisor_running_vms" u.hypervisor) = .ok u.runningVms

/- One entry for each source with a CPU record, and all of them current. -/
def ShowsCurrentHypervisors (records : List (Row F L)) (result : Except ε (List (HypervisorUsage F))) : Prop :=
  ∃ usages, result = .ok usages ∧ (usages.map HypervisorUsage.hypervisor).Nodup ∧
    (∀ source, source ∈ usages.map HypervisorUsage.hypervisor ↔
      source ∈ (ofMetric records "hypervisor_cpu_usage").map Row.source) ∧
    ∀ u ∈ usages, u.Current intValue intLabel records

/- The oldest record of a source shows what the most recent one does, for each metric but the CPU
usage, and what is converted can be. -/
structure Unchanged (records : List (Row F L)) (source : String) : Prop where
  memory : valueOf (oldest records "hypervisor_memory_usage" source) =
    valueOf (newest records "hypervisor_memory_usage" source)
  total : ∃ n, labelOf intLabel "total_mb" (oldest records "hypervisor_memory_usage" source) = .ok n ∧
    labelOf intLabel "total_mb" (newest records "hypervisor_memory_usage" source) = .ok n
  used : ∃ n, labelOf intLabel "used_mb" (oldest records "hypervisor_memory_usage" source) = .ok n ∧
    labelOf intLabel "used_mb" (newest records "hypervisor_memory_usage" source) = .ok n
  disk : valueOf (oldest records "hypervisor_disk_usage" source) = valueOf (newest records "hypervisor_disk_usage" source)
  vms : ∃ n, countOf intValue (oldest records "hypervisor_running_vms" source) = .ok n ∧
    countOf intValue (newest records "hypervisor_running_vms" source) = .ok n

variable {intValue intLabel}

theorem hypervisorUsage_ok {source : String} {cpu mem disk vm : Option (Row F L)} {u : HypervisorUsage F} :
    hypervisorUsage intValue intLabel source cpu mem disk vm = .ok u ↔
      ∃ total used vms, labelOf intLabel "total_mb" mem = .ok total ∧ labelOf intLabel "used_mb" mem = .ok used ∧
        countOf intValue vm = .ok vms ∧ u = ⟨source, valueOf cpu, valueOf mem, total, used, valueOf disk, vms⟩ := by
  unfold hypervisorUsage
  cases labelOf intLabel "total_mb" mem with
  | error exc => simp [bind, Except.bind]
  | ok total =>
    cases labelOf intLabel "used_mb" mem with
    | error exc => simp [bind, Except.bind]
    | ok used =>
      cases countOf intValue vm with
      | error exc => simp [bind, Except.bind]
      | ok vms => simp [bind, Except.bind, pure, Except.pure, eq_comm]

/-- An entry made of the most recent CPU record and of the oldest others is current exactly if
these are unchanged. -/
theorem entry_current_iff (records : List (Row F L)) (source : String) :
    (∃ u, hypervisorUsage intValue intLabel source (newest records "hypervisor_cpu_usage" source)
        (oldest records "hypervisor_memory_usage" source) (oldest records "hypervisor_disk_usage" source)
        (oldest records "hypervisor_running_vms" source) = .ok u ∧ u.Current intValue intLabel records) ↔
      Unchanged intValue intLabel records source := by
  constructor
  · rintro ⟨u, made, current⟩
    obtain ⟨total, used, vms, totalOk, usedOk, vmsOk, rfl⟩ := hypervisorUsage_ok.mp made
    exact {
      memory := current.memory
      total := ⟨total, totalOk, current.total⟩
      used := ⟨used, usedOk, current.used⟩
      disk := current.disk
      vms := ⟨vms, vmsOk, current.vms⟩ }
  · rintro ⟨memory, ⟨total, totalOld, totalNew⟩, ⟨used, usedOld, usedNew⟩, disk, ⟨vms, vmsOld, vmsNew⟩⟩
    refine ⟨_, hypervisorUsage_ok.mpr ⟨total, used, vms, totalOld, usedOld, vmsOld, rfl⟩, ?_⟩
    exact ⟨rfl, memory, totalNew, usedNew, disk, vmsNew⟩

/-- What the entries are made of. -/
theorem getHypervisorUsage_eq (order : List String → List String) {records : List (Row F L)}
    (queried : ∀ name ∈ hypervisorMetrics, Queried 50 (ofMetric records name)) :
    getHypervisorUsage intValue intLabel order records =
      (sources order records).mapM (fun source =>
        hypervisorUsage intValue intLabel source (newest records "hypervisor_cpu_usage" source)
          (oldest records "hypervisor_memory_usage" source) (oldest records "hypervisor_disk_usage" source)
          (oldest records "hypervisor_running_vms" source)) := by
  unfold getHypervisorUsage
  congr 1
  funext source
  rw [recordOf_eq_oldest (queried "hypervisor_memory_usage" (by decide)),
    recordOf_eq_oldest (queried "hypervisor_disk_usage" (by decide)),
    recordOf_eq_oldest (queried "hypervisor_running_vms" (by decide))]
  have first : (hypervisorRecords records "hypervisor_cpu_usage").find? (fun r => decide (r.source = source)) =
      newest records "hypervisor_cpu_usage" source := first_newest (queried "hypervisor_cpu_usage" (by decide)) _
  rw [first]

theorem getHypervisorUsage_names {order : List String → List String} {records : List (Row F L)}
    {usages : List (HypervisorUsage F)} (ok : getHypervisorUsage intValue intLabel order records = .ok usages) :
    usages.map HypervisorUsage.hypervisor = sources order records := by
  have kept := Py.map_of_mapM_ok (g := HypervisorUsage.hypervisor) (h := id) ok (fun source u made => by
    obtain ⟨_, _, _, _, _, _, rfl⟩ := hypervisorUsage_ok.mp made
    rfl)
  rw [kept, List.map_id]

/-- The usage of the hypervisors is current exactly if no source with a CPU record shows anything
else in its oldest records than in its most recent ones. -/
theorem hypervisors_current_iff (order : List String → List String) (records : List (Row F L))
    (enumerates : ∀ names, (order names).Perm names)
    (queried : ∀ name ∈ hypervisorMetrics, Queried 50 (ofMetric records name)) :
    ShowsCurrentHypervisors intValue intLabel records (getHypervisorUsage intValue intLabel order records) ↔
      ∀ r ∈ records, r.metricName = "hypervisor_cpu_usage" → Unchanged intValue intLabel records r.source := by
  obtain ⟨distinct, members⟩ := sources_of_cpu enumerates (queried "hypervisor_cpu_usage" (by decide))
  have each : ShowsCurrentHypervisors intValue intLabel records (getHypervisorUsage intValue intLabel order records) ↔
      ∀ source ∈ sources order records, Unchanged intValue intLabel records source := by
    simp only [← entry_current_iff, ← Py.mapM_ok_all_iff, ← getHypervisorUsage_eq order queried]
    constructor
    · rintro ⟨usages, ok, _, _, current⟩
      exact ⟨usages, ok, current⟩
    · rintro ⟨usages, ok, current⟩
      refine ⟨usages, ok, ?_, ?_, current⟩
      · rw [getHypervisorUsage_names ok]
        exact distinct
      · intro source
        rw [getHypervisorUsage_names ok]
        exact members source
  rw [each]
  constructor
  · intro unchanged r stored its
    refine unchanged r.source ((members r.source).mpr (List.mem_map_of_mem ?_))
    exact List.mem_filter.mpr ⟨stored, decide_eq_true its⟩
  · intro unchanged source member
    obtain ⟨r, inside, rfl⟩ := List.mem_map.mp ((members source).mp member)
    obtain ⟨stored, its⟩ := List.mem_filter.mp inside
    exact unchanged r stored (of_decide_eq_true its)

end CurrentHypervisors

instance {F L : Type} (limit : Nat) (rows : List (Row F L)) : Decidable (Queried limit rows) :=
  decidable_of_iff (rows.length ≤ limit ∧ (rows.map Row.recordedAt).Nodup)
    ⟨fun both => ⟨both.1, both.2⟩, fun queried => ⟨queried.few, queried.distinct⟩⟩

/- `int()` of a finite float and of a plain value. -/
def truncate (value : Rat) : Except String Int := .ok (value.num.tdiv value.den)

def intOf : Py.Val → Except String Int
  | .int i => .ok i
  | .bool b => .ok (if b then 1 else 0)
  | .str s => (s.toInt?.map Except.ok).getD (.error "ValueError")
  | _ => .error "TypeError"

/- Two hypervisors, each with one record of a metric or with records that show the same. -/
def steadyRecords : List (Row Rat Py.Val) :=
  [{ metricName := "hypervisor_cpu_usage", source := "node-1", value := 40, recordedAt := 1 },
   { metricName := "hypervisor_cpu_usage", source := "node-1", value := 45, recordedAt := 2 },
   { metricName := "hypervisor_cpu_usage", source := "node-2", value := 10, recordedAt := 3 },
   { metricName := "hypervisor_memory_usage", source := "node-1", value := 50,
     labels := some [("total_mb", .int 1024), ("used_mb", .int 512)], recordedAt := 4 },
   { metricName := "hypervisor_running_vms", source := "node-1", value := 3, recordedAt := 5 },
   { metricName := "hypervisor_running_vms", source := "node-1", value := 3, recordedAt := 6 }]

theorem steady_hypervisors_current :
    ShowsCurrentHypervisors truncate intOf steadyRecords (getHypervisorUsage truncate intOf id steadyRecords) := by
  refine (hypervisors_current_iff id steadyRecords (fun _ => List.Perm.refl _) (by decide)).mpr ?_
  intro r stored _
  have known : ∀ r ∈ steadyRecords, r.source = "node-1" ∨ r.source = "node-2" := by decide
  rcases known r stored with first | second
  · rw [first]
    exact ⟨rfl, ⟨1024, rfl, rfl⟩, ⟨512, rfl, rfl⟩, rfl, ⟨3, rfl, rfl⟩⟩
  · rw [second]
    exact ⟨rfl, ⟨0, rfl, rfl⟩, ⟨0, rfl, rfl⟩, rfl, ⟨0, rfl, rfl⟩⟩

/- The property asked of every table, with the conversions fixed. -/
def HypervisorsAlwaysCurrent : Prop :=
  ∀ (order : List String → List String) (records : List (Row Rat Py.Val)), (∀ names, (order names).Perm names) →
    (∀ name ∈ hypervisorMetrics, Queried 50 (ofMetric records name)) →
    ShowsCurrentHypervisors truncate intOf records (getHypervisorUsage truncate intOf order records)

/- The memory usage of a hypervisor rises. -/
def risingRecords : List (Row Rat Py.Val) :=
  [{ metricName := "hypervisor_memory_usage", source := "node-1", value := 50, recordedAt := 1 },
   { metricName := "hypervisor_memory_usage", source := "node-1", value := 70, recordedAt := 2 },
   { metricName := "hypervisor_cpu_usage", source := "node-1", value := 40, recordedAt := 3 }]

theorem rising_memory_not_shown : ¬ HypervisorsAlwaysCurrent := by
  intro claim
  obtain ⟨usages, ok, _, _, current⟩ := claim id risingRecords (fun _ => List.Perm.refl _) (by decide)
  have shown : getHypervisorUsage truncate intOf id risingRecords = .ok [⟨"node-1", 40, 50, 0, 0, 0, 0⟩] := rfl
  rw [shown] at ok
  cases ok
  have stale := (current ⟨"node-1", 40, 50, 0, 0, 0, 0⟩ (by simp)).memory
  have latest : valueOf (newest risingRecords "hypervisor_memory_usage" "node-1") = 70 := rfl
  rw [latest] at stale
  exact absurd stale (by decide)

section Grouping
variable {F L : Type}

def ofProject (rows : List (Row F L)) (project : String) : List (Row F L) :=
  rows.filter (fun r => decide (pid r = project))

theorem grouped_concat (rows : List (Row F L)) (r : Row F L) :
    (rows ++ [r]).foldl groupRecord [] = groupRecord (rows.foldl groupRecord []) r := by
  rw [List.foldl_append, List.foldl_cons, List.foldl_nil]

/-- The projects of the dictionary are those of the records. -/
theorem mem_grouped (rows : List (Row F L)) (project : String) :
    project ∈ (rows.foldl groupRecord []).map Prod.fst ↔ project ∈ rows.map pid := by
  induction rows using List.reverseRecOn with
  | nil => simp
  | append_singleton rows r ih =>
    rw [grouped_concat, groupRecord, Dict.mem_keys_set, ih]
    simp [or_comm, eq_comm]

theorem grouped_nodup (rows : List (Row F L)) : ((rows.foldl groupRecord []).map Prod.fst).Nodup := by
  induction rows using List.reverseRecOn with
  | nil => simp
  | append_singleton rows r ih =>
    rw [grouped_concat, groupRecord]
    exact Dict.nodup_keys_set _ _ ih

/-- What the dictionary holds of a project is built from the records of that project alone. -/
theorem grouped_find (rows : List (Row F L)) (project : String) :
    (Dict.find (rows.foldl groupRecord []) project).getD [] =
      Dict.build Row.metricName Row.value (ofProject rows project) := by
  induction rows using List.reverseRecOn with
  | nil => rfl
  | append_singleton rows r ih =>
    rw [grouped_concat, groupRecord, Dict.find_set, ofProject, List.filter_append]
    by_cases own : pid r = project
    · subst own
      rw [if_pos rfl, Option.getD_some, ih]
      simp [Dict.build, ofProject]
    · rw [if_neg own, ih]
      simp [own, ofProject]

theorem grouped_entry {rows : List (Row F L)} {entry : String × List (String × F)}
    (member : entry ∈ rows.foldl groupRecord []) :
    entry.2 = Dict.build Row.metricName Row.value (ofProject rows entry.1) := by
  have found := Dict.find_of_mem (grouped_nodup rows) member
  rw [← grouped_find, found, Option.getD_some]

end Grouping

section CurrentProjects
variable {F L ε : Type} (intValue : F → Except ε Int)

def projectMetrics : List String :=
  ["project_instance_count", "project_total_vcpus", "project_total_ram_mb", "project_total_disk_gb"]

/- The most recent and the least recent record of a metric for a project. -/
def newestOf (records : List (Row F L)) (name project : String) : Option (Row F L) :=
  (ofProject (ofMetric records name) project).argmax Row.recordedAt

def oldestOf (records : List (Row F L)) (name project : String) : Option (Row F L) :=
  (ofProject (ofMetric records name) project).argmin Row.recordedAt

structure ProjectUsage.Current (records : List (Row F L)) (u : ProjectUsage) : Prop where
  instances : countOf intValue (newestOf records "project_instance_count" u.projectId) = .ok u.instanceCount
  vcpus : countOf intValue (newestOf records "project_total_vcpus" u.projectId) = .ok u.totalVcpus
  ram : countOf intValue (newestOf records "project_total_ram_mb" u.projectId) = .ok u.totalRamMb
  disk : countOf intValue (newestOf records "project_total_disk_gb" u.projectId) = .ok u.totalDiskGb

/- One entry for each project of a record that the query finds, and all of them current. -/
def ShowsCurrentProjects (like : String → Bool) (records : List (Row F L)) (result : Except ε (List ProjectUsage)) :
    Prop :=
  ∃ usages, result = .ok usages ∧ (usages.map ProjectUsage.projectId).Nodup ∧
    (∀ project, project ∈ usages.map ProjectUsage.projectId ↔
      project ∈ (records.filter (fun r => like r.metricName)).map pid) ∧
    ∀ u ∈ usages, u.Current intValue records

/- The oldest record of a metric for the project counts as the most recent one does. -/
def SameCount (records : List (Row F L)) (name project : String) : Prop :=
  ∃ n, countOf intValue (oldestOf records name project) = .ok n ∧ countOf intValue (newestOf records name project) = .ok n

variable {intValue} {like : String → Bool} {records : List (Row F L)}

theorem projectUsage_ok {project : String} {metrics : List (String × F)} {u : ProjectUsage} :
    projectUsage intValue project metrics = .ok u ↔
      ∃ instances vcpus ram disk, metricOf intValue metrics "project_instance_count" = .ok instances ∧
        metricOf intValue metrics "project_total_vcpus" = .ok vcpus ∧
        metricOf intValue metrics "project_total_ram_mb" = .ok ram ∧
        metricOf intValue metrics "project_total_disk_gb" = .ok disk ∧
        u = ⟨project, none, instances, vcpus, ram, disk⟩ := by
  unfold projectUsage
  cases metricOf intValue metrics "project_instance_count" with
  | error exc => simp [bind, Except.bind]
  | ok instances =>
    cases metricOf intValue metrics "project_total_vcpus" with
    | error exc => simp [bind, Except.bind]
    | ok vcpus =>
      cases metricOf intValue metrics "project_total_ram_mb" with
      | error exc => simp [bind, Except.bind]
      | ok ram =>
        cases metricOf intValue metrics "project_total_disk_gb" with
        | error exc => simp [bind, Except.bind]
        | ok disk => simp [bind, Except.bind, pure, Except.pure, eq_comm]

/- The records of a metric that the pattern matches, of a project. -/
theorem found_of_project {name : String} (likes : like name = true) (project : String) :
    (records.filter (fun r => like r.metricName)).filter (fun r => decide (r.metricName = name) && decide (pid r = project)) =
      ofProject (ofMetric records name) project := by
  unfold ofProject ofMetric
  rw [List.filter_filter, List.filter_filter]
  apply List.filter_congr
  intro r _
  by_cases its : r.metricName = name
  · simp [its, likes]
  · simp [its]

/-- A metric of a group is counted by the oldest record. -/
theorem metricOf_oldest (queried : Queried 200 (records.filter (fun r => like r.metricName)))
    {name : String} (likes : like name = true) (project : String) :
    metricOf intValue (Dict.build Row.metricName Row.value
      (ofProject (newestFirst 200 (records.filter (fun r => like r.metricName))) project)) name =
      countOf intValue (oldestOf records name project) := by
  have last : ((ofProject (newestFirst 200 (records.filter (fun r => like r.metricName))) project).filter
      (fun r => decide (r.metricName = name))).getLast? = oldestOf records name project := by
    unfold ofProject oldestOf
    rw [List.filter_filter, last_oldest queried, found_of_project likes]
  unfold metricOf
  rw [Dict.find_build, last]
  cases oldestOf records name project with
  | none => rfl
  | some r => rfl

theorem project_entry_iff (queried : Queried 200 (records.filter (fun r => like r.metricName)))
    (likes : ∀ name ∈ projectMetrics, like name = true) {project : String} {metrics : List (String × F)}
    (built : metrics = Dict.build Row.metricName Row.value
      (ofProject (newestFirst 200 (records.filter (fun r => like r.metricName))) project)) :
    (∃ u, projectUsage intValue project metrics = .ok u ∧ u.Current intValue records) ↔
      ∀ name ∈ projectMetrics, SameCount intValue records name project := by
  have counted (name : String) (member : name ∈ projectMetrics) :
      metricOf intValue metrics name = countOf intValue (oldestOf records name project) := by
    rw [built]
    exact metricOf_oldest queried (likes name member) project
  constructor
  · rintro ⟨u, made, current⟩
    obtain ⟨instances, vcpus, ram, disk, instancesOk, vcpusOk, ramOk, diskOk, rfl⟩ := projectUsage_ok.mp made
    rw [counted _ (by decide)] at instancesOk vcpusOk ramOk diskOk
    intro name member
    simp only [projectMetrics, List.mem_cons, List.not_mem_nil, or_false] at member
    rcases member with rfl | rfl | rfl | rfl
    · exact ⟨instances, instancesOk, current.instances⟩
    · exact ⟨vcpus, vcpusOk, current.vcpus⟩
    · exact ⟨ram, ramOk, current.ram⟩
    · exact ⟨disk, diskOk, current.disk⟩
  · intro same
    obtain ⟨instances, instancesOld, instancesNew⟩ := same "project_instance_count" (by decide)
    obtain ⟨vcpus, vcpusOld, vcpusNew⟩ := same "project_total_vcpus" (by decide)
    obtain ⟨ram, ramOld, ramNew⟩ := same "project_total_ram_mb" (by decide)
    obtain ⟨disk, diskOld, diskNew⟩ := same "project_total_disk_gb" (by decide)
    refine ⟨⟨project, none, instances, vcpus, ram, disk⟩, projectUsage_ok.mpr ?_, ?_⟩
    · refine ⟨instances, vcpus, ram, disk, ?_, ?_, ?_, ?_, rfl⟩
      · rw [counted _ (by decide), instancesOld]
      · rw [counted _ (by decide), vcpusOld]
      · rw [counted _ (by decide), ramOld]
      · rw [counted _ (by decide), diskOld]
    · exact ⟨instancesNew, vcpusNew, ramNew, diskNew⟩

theorem getProjectUsage_names {usages : List ProjectUsage} (ok : getProjectUsage intValue like records = .ok usages) :
    usages.map ProjectUsage.projectId =
      ((newestFirst 200 (records.filter (fun r => like r.metricName))).foldl groupRecord []).map Prod.fst :=
  Py.map_of_mapM_ok ok (fun entry u made => by
    obtain ⟨_, _, _, _, _, _, _, _, rfl⟩ := projectUsage_ok.mp made
    rfl)

/-- The usage of the projects is current exactly if, for every project, the oldest record of each
of the four metrics counts as the most recent one does. -/
theorem projects_current_iff (like : String → Bool) (records : List (Row F L))
    (likes : ∀ name ∈ projectMetrics, like name = true)
    (queried : Queried 200 (records.filter (fun r => like r.metricName))) :
    ShowsCurrentProjects intValue like records (getProjectUsage intValue like records) ↔
      ∀ r ∈ records, like r.metricName = true → ∀ name ∈ projectMetrics, SameCount intValue records name (pid r) := by
  have members (project : String) :
      project ∈ ((newestFirst 200 (records.filter (fun r => like r.metricName))).foldl groupRecord []).map Prod.fst ↔
        project ∈ (records.filter (fun r => like r.metricName)).map pid := by
    rw [mem_grouped]
    exact ((newestFirst_perm queried.few).map pid).mem_iff
  have each : ShowsCurrentProjects intValue like records (getProjectUsage intValue like records) ↔
      ∀ entry ∈ (newestFirst 200 (records.filter (fun r => like r.metricName))).foldl groupRecord [],
        ∃ u, projectUsage intValue entry.1 entry.2 = .ok u ∧ u.Current intValue records := by
    rw [← Py.mapM_ok_all_iff]
    constructor
    · rintro ⟨usages, ok, _, _, current⟩
      exact ⟨usages, ok, current⟩
    · rintro ⟨usages, ok, current⟩
      refine ⟨usages, ok, ?_, ?_, current⟩
      · rw [getProjectUsage_names ok]
        exact grouped_nodup _
      · intro project
        rw [getProjectUsage_names ok]
        exact members project
  rw [each]
  constructor
  · intro current r stored found
    have grouped := (members (pid r)).mpr (List.mem_map_of_mem (List.mem_filter.mpr ⟨stored, found⟩))
    obtain ⟨entry, inside, its⟩ := List.mem_map.mp grouped
    rw [← its]
    exact (project_entry_iff queried likes (grouped_entry inside)).mp (current entry inside)
  · intro same entry inside
    obtain ⟨r, found, its⟩ := List.mem_map.mp ((members entry.1).mp (List.mem_map_of_mem inside))
    obtain ⟨stored, matched⟩ := List.mem_filter.mp found
    refine (project_entry_iff queried likes (grouped_entry inside)).mpr ?_
    rw [← its]
    exact same r stored matched

end CurrentProjects

/- LIKE 'project_%', case-sensitive: the underscore stands for any one character. -/
def likeProject (name : String) : Bool := decide ("project".toList <+: name.toList ∧ 8 ≤ name.toList.length)

/- A project whose number of instances has not changed, and a record without a project. -/
def steadyProjects : List (Row Rat Py.Val) :=
  [{ metricName := "project_instance_count", source := "nova", value := 3, projectId := some "p1", recordedAt := 1 },
   { metricName := "project_instance_count", source := "nova", value := 3, projectId := some "p1", recordedAt := 2 },
   { metricName := "project_total_vcpus", source := "nova", value := 8, recordedAt := 3 }]

theorem steady_projects_current :
    ShowsCurrentProjects truncate likeProject steadyProjects (getProjectUsage truncate likeProject steadyProjects) := by
  refine (projects_current_iff likeProject steadyProjects (by decide) (by decide)).mpr ?_
  intro r stored _ name member
  have known : ∀ r ∈ steadyProjects, pid r = "p1" ∨ pid r = "unknown" := by decide
  simp only [projectMetrics, List.mem_cons, List.not_mem_nil, or_false] at member
  rcases known r stored with own | unknown
  · rw [own]
    rcases member with rfl | rfl | rfl | rfl
    · exact ⟨3, rfl, rfl⟩
    all_goals exact ⟨0, rfl, rfl⟩
  · rw [unknown]
    rcases member with rfl | rfl | rfl | rfl
    · exact ⟨0, rfl, rfl⟩
    · exact ⟨8, rfl, rfl⟩
    all_goals exact ⟨0, rfl, rfl⟩

def ProjectsAlwaysCurrent : Prop :=
  ∀ records : List (Row Rat Py.Val), Queried 200 (records.filter (fun r => likeProject r.metricName)) →
    ShowsCurrentProjects truncate likeProject records (getProjectUsage truncate likeProject records)

/- A project grows from three instances to five. -/
def growingProject : List (Row Rat Py.Val) :=
  [{ metricName := "project_instance_count", source := "nova", value := 3, projectId := some "p1", recordedAt := 1 },
   { metricName := "project_instance_count", source := "nova", value := 5, projectId := some "p1", recordedAt := 2 }]

theorem growing_project_not_shown : ¬ ProjectsAlwaysCurrent := by
  intro claim
  obtain ⟨usages, ok, _, _, current⟩ := claim growingProject (by decide)
  have shown : getProjectUsage truncate likeProject growingProject = .ok [⟨"p1", none, 3, 0, 0, 0⟩] := rfl
  rw [shown] at ok
  cases ok
  have stale := (current ⟨"p1", none, 3, 0, 0, 0⟩ (by simp)).instances
  have latest : countOf truncate (newestOf growingProject "project_instance_count" "p1") = .ok 5 := rfl
  rw [latest] at stale
  cases stale

end VMachine.Monitoring
