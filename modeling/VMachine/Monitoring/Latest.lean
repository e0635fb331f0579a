import VMachine.Batch.Conservation
import VMachine.Lib.GroupMax

/-! The latest metrics. A reading has no time of its own: the database stamps the readings of a
batch when the batch is committed, all with one time. `get_latest_metrics` returns the rows that
bear the greatest time of their metric, so the readings of the last batch are all there. -/
namespace VMachine.Monitoring
open Batch
open Py (nonempty)

/- A row of metric_records, without the id that nothing reads. -/
structure MetricRecord extends Reading where
  recordedAt : Nat
  deriving Repr

structure MetricValue extends Reading where
  recordedAt : Option Nat
  deriving Repr

/- The worker, the table and the time of the database. -/
structure Store where
  worker : State Reading
  records : List MetricRecord
  clock : Nat
  deriving Repr

def Store.initial : Store := ⟨.initial, [], 0⟩

/- `_flush_metric_batch`: one transaction, in which `func.now()` does not change. -/
def flushMetricBatch (now : Nat) (entries : List (Item Reading)) : List MetricRecord :=
  entries.map (fun x => { x.entry with recordedAt := now })

/- An event of the worker at a time of the database, which does not go back. -/
def recordStep (s : Store) : Event Reading × Nat → Option Store
  | (e, now) =>
    if s.clock ≤ now then
      (step metricFlushWorker s.worker e).map (fun t =>
        { worker := t, records := s.records ++ flushMetricBatch now (commits s.worker e), clock := now })
    else none

/- `if source: query.where(MetricRecord.source == source)`. -/
def whereSource (source : Option String) (records : List MetricRecord) : List MetricRecord :=
  match nonempty source with
  | none => records
  | some text => records.filter (fun r => decide (r.source = text))

def metricValue (r : MetricRecord) : MetricValue := { r.toReading with recordedAt := some r.recordedAt }

/- The database returns the items in an order of its own. -/
def getLatestMetrics (records : List MetricRecord) (source : Option String) : List MetricValue :=
  let subquery := GroupMax.maxima (fun r => r.metricName) MetricRecord.recordedAt (whereSource source records)
  let joined := GroupMax.join (fun r => r.metricName) MetricRecord.recordedAt records subquery
  (whereSource source joined).map metricValue

/- The calls of `record_metric`, in their order. -/
def recorded (es : List (Event Reading × Nat)) : List Reading := es.flatMap (fun e => e.1.entries metricFlushWorker)

def readings (name source : String) (calls : List Reading) : List Reading :=
  calls.filter (fun r => decide (r.metricName = name ∧ r.source = source))

/- Every reading that was recorded has reached the table. -/
def AllFlushed (s : Store) : Prop := s.worker.persisted = s.worker.enqueued

/- In whatever order the items come, there is one for each metric of the source, and it has the
value of the last call. -/
def LatestWins (calls : List Reading) (records : List MetricRecord) (source : String) : Prop :=
  ∀ items : List MetricValue, items.Perm (getLatestMetrics records (some source)) →
    ∀ name last, (readings name source calls).getLast? = some last →
      ∃ item, items.filter (fun i => decide (i.metricName = name)) = [item] ∧ item.value = last.value

/- The rows of a metric that the query looks at. -/
def lookedAt (records : List MetricRecord) (source name : String) : List MetricRecord :=
  GroupMax.group (fun r => r.metricName) name (whereSource (some source) records)

/- The last row that the query looks at is alone at its time. The empty source is no filter: what
that row shows, whoever recorded it, has to be what the source recorded last. -/
def Alone (records : List MetricRecord) (source name : String) (last : Reading) : Prop :=
  ∃ earlier shown, lookedAt records source name = earlier ++ [shown] ∧
    (∀ row ∈ earlier, row.recordedAt ≠ shown.recordedAt) ∧ (source = "" → shown.value = last.value)

section Machine
variable {s t : Store} {e : Event Reading × Nat} {es : List (Event Reading × Nat)}

/-- What an event of the store does. -/
theorem recordStep_cases (h : recordStep s e = some t) :
    s.clock ≤ e.2 ∧ ∃ u, step metricFlushWorker s.worker e.1 = some u ∧
      t = { worker := u, records := s.records ++ flushMetricBatch e.2 (commits s.worker e.1), clock := e.2 } := by
  obtain ⟨event, now⟩ := e
  simp only [recordStep] at h
  split at h
  · rename_i onwards
    obtain ⟨u, next, rfl⟩ := Option.map_eq_some_iff.mp h
    exact ⟨onwards, u, next, rfl⟩
  · contradiction

/- The table holds what the worker has persisted, in the order of time. -/
structure Stamped (s : Store) : Prop where
  readings : s.records.map MetricRecord.toReading = s.worker.persisted.map Item.entry
  ordered : s.records.Pairwise (fun a b => a.recordedAt ≤ b.recordedAt)
  past : ∀ r ∈ s.records, r.recordedAt ≤ s.clock

theorem flushMetricBatch_readings (now : Nat) (entries : List (Item Reading)) :
    (flushMetricBatch now entries).map MetricRecord.toReading = entries.map Item.entry := by
  simp [flushMetricBatch]

theorem mem_flushMetricBatch {now : Nat} {entries : List (Item Reading)} {r : MetricRecord}
    (member : r ∈ flushMetricBatch now entries) : r.recordedAt = now := by
  obtain ⟨x, _, rfl⟩ := List.mem_map.mp member
  rfl

theorem recordStep_stamped (ok : Stamped s) (h : recordStep s e = some t) : Stamped t := by
  obtain ⟨onwards, u, next, rfl⟩ := recordStep_cases h
  constructor
  · rw [List.map_append, ok.readings, flushMetricBatch_readings, step_persisted next, List.map_append]
  · apply List.pairwise_append.mpr
    refine ⟨ok.ordered, ?_, fun a before b new => ?_⟩
    · apply List.pairwise_of_forall_mem_list
      intro a first b second
      rw [mem_flushMetricBatch first, mem_flushMetricBatch second]
    · rw [mem_flushMetricBatch new]
      exact Nat.le_trans (ok.past a before) onwards
  · intro r member
    obtain before | new := List.mem_append.mp member
    · exact Nat.le_trans (ok.past r before) onwards
    · exact Nat.le_of_eq (mem_flushMetricBatch new)

theorem run_stamped (run : Runs.exec recordStep .initial es = some s) : Stamped s := by
  have nothing : Stamped .initial := ⟨rfl, List.Pairwise.nil, by simp [Store.initial]⟩
  exact Runs.invariant recordStep (fun _ _ _ ok h => recordStep_stamped ok h) nothing run

theorem run_recorded (run : Runs.exec recordStep .initial es = some s) :
    s.worker.enqueued.map Item.entry = recorded es := by
  refine Runs.history (I := fun es s => s.worker.enqueued.map Item.entry = recorded es) recordStep ?_ rfl run
  intro before u e v calls h
  obtain ⟨_, w, next, rfl⟩ := recordStep_cases h
  rw [step_entries next, calls]
  simp [recorded]

/-- Once everything is flushed, the table holds the calls in their order. -/
theorem records_of_flushed (run : Runs.exec recordStep .initial es = some s) (flushed : AllFlushed s) :
    s.records.map MetricRecord.toReading = recorded es := by
  rw [(run_stamped run).readings, show s.worker.persisted = s.worker.enqueued from flushed]
  exact run_recorded run

theorem run_worker (run : Runs.exec recordStep .initial es = some s) :
    Runs.exec (step metricFlushWorker) .initial (es.map Prod.fst) = some s.worker := by
  refine Runs.history (I := fun es s => Runs.exec (step metricFlushWorker) .initial (es.map Prod.fst) = some s.worker)
    recordStep ?_ rfl run
  intro before u e v ran h
  obtain ⟨_, w, next, rfl⟩ := recordStep_cases h
  rw [List.map_append]
  exact (Runs.exec_append (step metricFlushWorker)).mpr ⟨u.worker, ran, (Runs.exec_cons _).mpr ⟨w, next, rfl⟩⟩

/-- While every flush returns, everything is flushed as soon as the queue and the batch are empty. -/
theorem allFlushed_of_empty (run : Runs.exec recordStep .initial es = some s)
    (orderly : ∀ e ∈ es, e.1.orderly = true) (batch : s.worker.batch = []) (queue : s.worker.waiting = []) :
    AllFlushed s := by
  have every : ∀ e ∈ es.map Prod.fst, e.orderly = true := by
    intro event member
    obtain ⟨e, inside, rfl⟩ := List.mem_map.mp member
    exact orderly e inside
  have accounted := (run_conserved (run_worker run) every).accounted
  rw [batch, queue, List.append_nil, List.append_nil] at accounted
  exact accounted

end Machine

section Query
variable {records : List MetricRecord} {source name : String} {calls : List Reading} {last : Reading}

theorem whereSource_filter (source : Option String) (p : MetricRecord → Bool) (records : List MetricRecord) :
    whereSource source (records.filter p) = (whereSource source records).filter p := by
  unfold whereSource
  split
  · rfl
  · rw [List.filter_filter, List.filter_filter]
    simp only [Bool.and_comm]

theorem whereSource_ordered (source : Option String) (ordered : records.Pairwise (fun a b => a.recordedAt ≤ b.recordedAt)) :
    (whereSource source records).Pairwise (fun a b => a.recordedAt ≤ b.recordedAt) := by
  unfold whereSource
  split
  · exact ordered
  · exact ordered.filter _

/-- The items of a metric are the rows that bear its greatest time. -/
theorem items_of_metric (records : List MetricRecord) (source name : String) :
    (getLatestMetrics records (some source)).filter (fun i => decide (i.metricName = name)) =
      ((lookedAt records source name).filter (fun r => decide
        (GroupMax.latest (fun r => r.metricName) MetricRecord.recordedAt name (whereSource (some source) records) =
          some r.recordedAt))).map metricValue := by
  simp only [getLatestMetrics, lookedAt, GroupMax.group, GroupMax.join_maxima, whereSource_filter, List.filter_map,
    List.filter_filter]
  congr 1
  apply List.filter_congr
  intro r _
  by_cases its : r.metricName = name
  · subst its
    simp [metricValue]
  · simp [metricValue, its]

/-- The items of a metric whose rows the query looks at in the order of time. -/
theorem items_of_ordered {earlier : List MetricRecord} {shown : MetricRecord}
    (ordered : records.Pairwise (fun a b => a.recordedAt ≤ b.recordedAt))
    (ends : lookedAt records source name = earlier ++ [shown]) :
    (getLatestMetrics records (some source)).filter (fun i => decide (i.metricName = name)) =
      (earlier.filter (fun r => decide (r.recordedAt = shown.recordedAt)) ++ [shown]).map metricValue := by
  have greatest := GroupMax.latest_of_ordered (whereSource_ordered (some source) ordered) ends
  rw [items_of_metric, greatest, ends, List.filter_append]
  simp [eq_comm]

/-- The rows that a query with a source looks at are its readings. -/
theorem lookedAt_readings (given : source ≠ "") (stored : records.map MetricRecord.toReading = calls) :
    (lookedAt records source name).map MetricRecord.toReading = readings name source calls := by
  rw [← stored, readings, List.filter_map, lookedAt, whereSource, Py.nonempty_eq_some.mpr ⟨rfl, given⟩, GroupMax.group,
    List.filter_filter]
  congr 1
  apply List.filter_congr
  intro r _
  simp

/-- The query looks at some rows of every metric of the source. Without a source the last of them
may be another's. -/
theorem lookedAt_ends (stored : records.map MetricRecord.toReading = calls)
    (asked : (readings name source calls).getLast? = some last) :
    ∃ earlier shown, lookedAt records source name = earlier ++ [shown] ∧ (source ≠ "" → shown.value = last.value) := by
  by_cases given : source = ""
  · have member := List.mem_of_getLast? asked
    obtain ⟨inside, its⟩ := List.mem_filter.mp member
    rw [← stored] at inside
    obtain ⟨row, present, rfl⟩ := List.mem_map.mp inside
    have looked : row ∈ lookedAt records source name := by
      rw [given]
      exact GroupMax.mem_group.mpr ⟨present, (of_decide_eq_true its).1⟩
    obtain none | ⟨earlier, shown, ends⟩ := List.eq_nil_or_concat' (lookedAt records source name)
    · rw [none] at looked
      contradiction
    · exact ⟨earlier, shown, ends, fun other => absurd given other⟩
  · rw [← lookedAt_readings given stored, List.getLast?_map] at asked
    obtain ⟨shown, found, rfl⟩ := Option.map_eq_some_iff.mp asked
    obtain ⟨earlier, ends⟩ := List.getLast?_eq_some_iff.mp found
    exact ⟨earlier, shown, ends, fun _ => rfl⟩

theorem one_item_iff (ordered : records.Pairwise (fun a b => a.recordedAt ≤ b.recordedAt))
    (stored : records.map MetricRecord.toReading = calls) (asked : (readings name source calls).getLast? = some last) :
    (∃ item, (getLatestMetrics records (some source)).filter (fun i => decide (i.metricName = name)) = [item] ∧
      item.value = last.value) ↔ Alone records source name last := by
  obtain ⟨earlier, shown, ends, own⟩ := lookedAt_ends stored asked
  rw [items_of_ordered ordered ends]
  constructor
  · rintro ⟨item, one, value⟩
    have alone : earlier.filter (fun r => decide (r.recordedAt = shown.recordedAt)) = [] := by
      have size := congrArg List.length one
      simpa using size
    rw [alone] at one
    cases one
    refine ⟨earlier, shown, ends, fun row before same => ?_, fun _ => value⟩
    exact List.filter_eq_nil_iff.mp alone row before (decide_eq_true same)
  · rintro ⟨before, final, also, alone, whose⟩
    obtain ⟨rfl, same⟩ := List.append_inj' (ends.symm.trans also) rfl
    cases same
    have none : earlier.filter (fun r => decide (r.recordedAt = shown.recordedAt)) = [] := by
      apply List.filter_eq_nil_iff.mpr
      intro row member same
      exact alone row member (of_decide_eq_true same)
    refine ⟨metricValue shown, by simp [none], ?_⟩
    by_cases given : source = ""
    · exact whose given
    · exact own given

end Query

/-- Once everything is flushed, the latest reading wins exactly if, for each metric of the source,
the last row that the query looks at is alone at its time. -/
theorem latest_wins_iff {es : List (Event Reading × Nat)} {s : Store} (run : Runs.exec recordStep .initial es = some s)
    (flushed : AllFlushed s) (source : String) :
    LatestWins (recorded es) s.records source ↔
      ∀ name last, (readings name source (recorded es)).getLast? = some last → Alone s.records source name last := by
  have ordered := (run_stamped run).ordered
  have stored := records_of_flushed run flushed
  constructor
  · intro wins name last asked
    exact (one_item_iff ordered stored asked).mp (wins _ (List.Perm.refl _) name last asked)
  · intro alone items order name last asked
    obtain ⟨item, one, value⟩ := (one_item_iff ordered stored asked).mpr (alone name last asked)
    have same := order.filter (fun i => decide (i.metricName = name))
    rw [one] at same
    exact ⟨item, List.perm_singleton.mp same, value⟩

/- Two readings of one metric, each flushed by the timer in a batch of its own. -/
def hotReading : Reading := { cpuReading with value := 43 }

def spacedTicks : List (Event Reading × Nat) :=
  [(.call cpuReading, 0), (.get, 0), (.timeout, 5), (.flushed, 5), (.call hotReading, 6), (.get, 6), (.timeout, 11),
    (.flushed, 11)]

def spacedStore : Store :=
  ⟨⟨[], .polling, [], [⟨0, cpuReading⟩, ⟨1, hotReading⟩], [⟨0, cpuReading⟩, ⟨1, hotReading⟩]⟩,
    [{ cpuReading with recordedAt := 5 }, { hotReading with recordedAt := 11 }], 11⟩

theorem latest_wins_spaced_ticks : LatestWins [cpuReading, hotReading] spacedStore.records "node-1" ∧
    (getLatestMetrics spacedStore.records (some "node-1")).map (fun item => item.value) = [43] := by
  have run : Runs.exec recordStep .initial spacedTicks = some spacedStore := rfl
  have flushed : AllFlushed spacedStore := allFlushed_of_empty run (by decide +kernel) rfl rfl
  refine ⟨(latest_wins_iff run flushed "node-1").mpr (fun name last asked => ?_), by decide +kernel⟩
  by_cases own : name = "hypervisor_cpu_usage"
  · subst own
    exact ⟨[{ cpuReading with recordedAt := 5 }], { hotReading with recordedAt := 11 }, rfl, by simp, by simp⟩
  · have none : readings name "node-1" [cpuReading, hotReading] = [] := by
      simp [readings, cpuReading, hotReading, Ne.symm own]
    rw [show recorded spacedTicks = [cpuReading, hotReading] from rfl, none] at asked
    contradiction

/- The property asked of the batch path, over all its runs. -/
def LatestAlwaysWins : Prop :=
  ∀ (es : List (Event Reading × Nat)) (s : Store), Runs.exec recordStep .initial es = some s → AllFlushed s →
    ∀ source, LatestWins (recorded es) s.records source

/- A metric is recorded twice before the timer flushes. -/
def twiceTicks : List (Event Reading × Nat) :=
  [(.call cpuReading, 0), (.call hotReading, 1), (.get, 1), (.get, 1), (.timeout, 6), (.flushed, 6)]

def twiceStore : Store :=
  ⟨⟨[], .polling, [], [⟨0, cpuReading⟩, ⟨1, hotReading⟩], [⟨0, cpuReading⟩, ⟨1, hotReading⟩]⟩,
    [{ cpuReading with recordedAt := 6 }, { hotReading with recordedAt := 6 }], 6⟩

theorem batch_shows_both : ¬ LatestAlwaysWins := by
  intro claim
  have wins := claim twiceTicks twiceStore rfl rfl "node-1" _ (List.Perm.refl _) "hypervisor_cpu_usage" hotReading rfl
  obtain ⟨item, one, _⟩ := wins
  have both : ((getLatestMetrics twiceStore.records (some "node-1")).filter
      (fun i => decide (i.metricName = "hypervisor_cpu_usage"))).length = 2 := by decide
  rw [one] at both
  simp at both

end VMachine.Monitoring
