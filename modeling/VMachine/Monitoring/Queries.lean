import Mathlib.Data.List.Perm.Basic
import VMachine.Lib.Pages
import VMachine.Monitoring.Latest

/-! `query_metrics`: the newest rows that a query asks for, as many as it wants. The rows of a batch
bear one time, and the database puts rows of one time in whichever order it finds them. -/
namespace VMachine.Monitoring
open Batch
open Py (nonempty)

/- The times are those that the database gives to the rows. -/
structure MetricQueryParams where
  metricName : Option String := none
  source : Option String := none
  projectId : Option String := none
  since : Option Nat := none
  untilTime : Option Nat := none
  limit : Nat := 100
  bounds : 1 ≤ limit ∧ limit ≤ 1000

/- `if text: query.where(column == text)`. A column without a value equals nothing. -/
def equals (text column : Option String) : Bool :=
  match nonempty text with
  | none => true
  | some given => decide (column = some given)

def MetricQueryParams.asks (q : MetricQueryParams) (r : Reading) : Bool :=
  equals q.metricName (some r.metricName) && equals q.source (some r.source) && equals q.projectId r.projectId

/- `recorded_at >= since` and `recorded_at <= until`, both ends included. -/
def MetricQueryParams.during (q : MetricQueryParams) (time : Nat) : Bool :=
  q.since.all (fun start => decide (start ≤ time)) && q.untilTime.all (fun stop => decide (time ≤ stop))

def MetricQueryParams.selected (q : MetricQueryParams) (records : List MetricRecord) : List MetricRecord :=
  records.filter (fun r => q.asks r.toReading && q.during r.recordedAt)

/- `query_metrics`, with the order in which the database returns the rows for this question. -/
def queryMetrics (arrange : List MetricRecord → List MetricRecord) (records : List MetricRecord) (q : MetricQueryParams) :
    List MetricValue :=
  ((arrange (q.selected records)).take q.limit).map metricValue

/- The rows that were written last, the last one first. -/
def lastWritten (limit : Nat) (records : List MetricRecord) : List MetricRecord := records.reverse.take limit

section Answers
variable {records : List MetricRecord} {q : MetricQueryParams}

theorem reverse_descending (ordered : records.Pairwise (fun a b => a.recordedAt ≤ b.recordedAt)) :
    Pages.Descending MetricRecord.recordedAt records records.reverse :=
  ⟨List.reverse_perm records, List.pairwise_reverse.mpr ordered⟩

theorem metricValue_injective : Function.Injective metricValue := by
  rintro ⟨r, m⟩ ⟨s, n⟩ same
  simp only [metricValue, MetricValue.mk.injEq, Option.some.injEq] at same
  rw [same.1, same.2]

/-- The readings that a query without a time asks for, as they were recorded. -/
theorem selected_readings {calls : List Reading} (stored : records.map MetricRecord.toReading = calls)
    (anyTime : q.since = none ∧ q.untilTime = none) : (q.selected records).map MetricRecord.toReading = calls.filter q.asks := by
  rw [← stored, List.filter_map, MetricQueryParams.selected]
  congr 1
  apply List.filter_congr
  intro r _
  simp [MetricQueryParams.during, anyTime]

/-- What the rows are shown as can be told apart as well as the rows. -/
theorem shown_iff {first second : List MetricRecord} :
    (first.map metricValue).Perm (second.map metricValue) ↔ first.Perm second :=
  List.map_perm_map_iff metricValue_injective

end Answers

/-- Once everything is flushed, a query is answered with what was recorded last, whichever way the database
puts the rows of one batch, exactly if the limit does not cut through rows of one time that differ. -/
theorem query_newest_iff {es : List (Event Reading × Nat)} {s : Store} (run : Runs.exec recordStep .initial es = some s)
    (flushed : AllFlushed s) (q : MetricQueryParams) :
    (q.since = none ∧ q.untilTime = none →
      (q.selected s.records).map MetricRecord.toReading = (recorded es).filter q.asks) ∧
    ((∀ arrange, Pages.Arranges MetricRecord.recordedAt arrange → ∀ n,
      (queryMetrics (arrange n) s.records q).Perm ((lastWritten q.limit (q.selected s.records)).map metricValue)) ↔
      Pages.Settled MetricRecord.recordedAt q.limit (q.selected s.records)) := by
  refine ⟨selected_readings (records_of_flushed run flushed), ?_⟩
  have ordered : (q.selected s.records).Pairwise (fun a b => a.recordedAt ≤ b.recordedAt) :=
    (run_stamped run).ordered.filter _
  rw [← Pages.first_rows_iff (reverse_descending ordered)]
  constructor
  · intro answered other descending
    obtain ⟨arrange, arranges, same⟩ := Pages.exists_arranges (fun _ : Nat => descending)
    have perm := answered arrange arranges 0
    rw [queryMetrics, same] at perm
    exact shown_iff.mp perm
  · intro first arrange arranges n
    exact shown_iff.mpr (first _ (arranges n _))

/- The newest reading alone. -/
def newestOne : MetricQueryParams where
  metricName := some "hypervisor_cpu_usage"
  limit := 1
  bounds := by decide

/-- Of two readings of one batch, either may be answered as the newest. -/
theorem newest_of_two_open : ¬ ∀ arrange, Pages.Arranges MetricRecord.recordedAt arrange → ∀ n,
    (queryMetrics (arrange n) twiceStore.records newestOne).Perm
      ((lastWritten 1 (newestOne.selected twiceStore.records)).map metricValue) := by
  intro answered
  have settled := (@query_newest_iff twiceTicks twiceStore rfl rfl newestOne).2.mp answered
  have alike := settled { cpuReading with recordedAt := 6 } (.head _) (by decide) (by decide)
    { hotReading with recordedAt := 6 } (.tail _ (.head _))
  have values := congrArg (fun r : MetricRecord => r.value) alike
  simp [hotReading, cpuReading] at values

section Latest
variable {records : List MetricRecord} {q : MetricQueryParams} {name : String}

/- The query names a metric and perhaps a source, and nothing else. -/
structure MetricQueryParams.OfMetric (q : MetricQueryParams) (name : String) : Prop where
  metric : q.metricName = some name
  given : name ≠ ""
  project : nonempty q.projectId = none
  anyTime : q.since = none ∧ q.untilTime = none

/- What `get_latest_metrics` shows of a metric. -/
def latestOf (records : List MetricRecord) (source : Option String) (name : String) : List MetricValue :=
  (getLatestMetrics records source).filter (fun i => decide (i.metricName = name))

theorem whereSource_eq (source : Option String) :
    whereSource source records = records.filter (fun r => equals source (some r.source)) := by
  unfold whereSource equals
  cases nonempty source with
  | none => simp
  | some text => simp

/-- No source and the empty source are the same. -/
theorem whereSource_getD (source : Option String) : whereSource (some (source.getD "")) records = whereSource source records := by
  cases source with
  | none => rfl
  | some text => rfl

theorem selected_of_metric (asks : q.OfMetric name) : q.selected records = lookedAt records (q.source.getD "") name := by
  rw [lookedAt, whereSource_getD, whereSource_eq, GroupMax.group, List.filter_filter, MetricQueryParams.selected]
  apply List.filter_congr
  intro r _
  simp [MetricQueryParams.asks, MetricQueryParams.during, equals, asks.metric, asks.project, asks.anyTime,
    Py.nonempty_eq_some.mpr ⟨rfl, asks.given⟩]

/-- What is shown of a metric are the rows with the greatest time among those that the query selects. -/
theorem latestOf_eq (asks : q.OfMetric name) : latestOf records q.source name =
    ((q.selected records).filter (fun r => decide
      (((q.selected records).map MetricRecord.recordedAt).max? = some r.recordedAt))).map metricValue := by
  have same : getLatestMetrics records q.source = getLatestMetrics records (some (q.source.getD "")) := by
    simp only [getLatestMetrics, whereSource_getD]
  rw [latestOf, same, items_of_metric, selected_of_metric asks]
  rfl

end Latest

/-- What is shown as the latest of a metric comes first in the answer to a query for that metric, and all of it
is there exactly if it is not more than the limit. -/
theorem latest_answered_iff {records : List MetricRecord} {q : MetricQueryParams} {name : String}
    {arrange : Nat → List MetricRecord → List MetricRecord} (asks : q.OfMetric name)
    (arranges : Pages.Arranges MetricRecord.recordedAt arrange) (n : Nat) :
    ((queryMetrics (arrange n) records q).take (latestOf records q.source name).length).Subperm
        (latestOf records q.source name) ∧
      ((latestOf records q.source name).Subperm (queryMetrics (arrange n) records q) ↔
        (latestOf records q.source name).length ≤ q.limit) := by
  rw [latestOf_eq asks]
  cases greatest : ((q.selected records).map MetricRecord.recordedAt).max? with
  | none => simp
  | some k =>
    have most : ∀ row ∈ q.selected records, row.recordedAt ≤ k := fun row member =>
      (List.max?_eq_some_iff.mp greatest).2 _ (List.mem_map_of_mem member)
    have top := (Pages.take_top (arranges n (q.selected records)) most).map metricValue
    have own : (q.selected records).filter (fun r => decide (some k = some r.recordedAt)) =
        Pages.tied MetricRecord.recordedAt k (q.selected records) := by
      simp only [Option.some.injEq, Pages.tied, eq_comm]
    rw [own]
    generalize Pages.tied MetricRecord.recordedAt k (q.selected records) = latest at top ⊢
    rw [List.length_map, queryMetrics, ← List.map_take, List.take_take]
    refine ⟨?_, fun all => ?_, fun enough => ?_⟩
    · exact (((List.take_sublist_take_left (Nat.min_le_left _ _)).map metricValue).subperm).trans top.subperm
    · have size := all.length_le
      rw [List.length_map, List.length_map] at size
      exact size.trans (List.length_take_le _ _)
    · exact top.symm.subperm.trans ((List.take_sublist_take_left enough).map metricValue).subperm

theorem two_latest_one_answered : ∃ arrange, Pages.Arranges MetricRecord.recordedAt arrange ∧
    ∀ n, ¬ (latestOf twiceStore.records none "hypervisor_cpu_usage").Subperm
      (queryMetrics (arrange n) twiceStore.records newestOne) := by
  obtain ⟨arrange, arranges, _⟩ := Pages.exists_arranges (fun _ : Nat => @reverse_descending [] List.Pairwise.nil)
  refine ⟨arrange, arranges, fun n all => ?_⟩
  have enough := (latest_answered_iff (q := newestOne) ⟨rfl, by decide, rfl, rfl, rfl⟩ arranges n).2.mp all
  exact absurd enough (by decide)

end VMachine.Monitoring
