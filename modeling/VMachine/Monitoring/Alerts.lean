import VMachine.Database.Records
import VMachine.Monitoring.Dashboard

/-! The alerts of `MonitoringService`, which any number of calls create and resolve at a time. A
resolution reads the alert, assigns to two of its columns and commits, and the UPDATE sets those of
the two that differ from what has been read. -/
namespace VMachine.Monitoring.Alerts
open Runs OpenStack Database Database.Records Effects

structure AlertRecord where
  id : String
  severity : String
  title : String
  message : Option String
  source : String
  resourceType : Option String
  resourceId : Option String
  status : String
  createdAt : Nat
  resolvedAt : Option Nat
  deriving Repr, DecidableEq

structure AlertRecordSummary where
  id : String
  severity : String
  title : String
  message : Option String
  source : String
  resourceType : Option String
  resourceId : Option String
  status : String
  createdAt : Option String
  resolvedAt : Option String
  deriving Repr, DecidableEq

/- The arguments of `create_alert`. -/
structure Alert where
  severity : String
  title : String
  source : String
  message : Option String := none
  resourceType : Option String := none
  resourceId : Option String := none
  deriving Repr, DecidableEq

def Alert.record (alert : Alert) (id : String) (now : Nat) : AlertRecord where
  id := id
  severity := alert.severity
  title := alert.title
  message := alert.message
  source := alert.source
  resourceType := alert.resourceType
  resourceId := alert.resourceId
  status := "active"
  createdAt := now
  resolvedAt := none

def alertService (b : Backend) (isoformat : Nat → String) : Service AlertRecord AlertRecordSummary where
  id := AlertRecord.id
  name _ := none
  fits record := b.takes 36 record.id && b.takes 20 record.severity && b.takes 255 record.title &&
    b.takes 100 record.source && record.resourceType.all (b.takes 100) && record.resourceId.all (b.takes 255) &&
    b.takes 20 record.status
  createdAt := AlertRecord.createdAt
  serialize r := ⟨r.id, r.severity, r.title, r.message, r.source, r.resourceType, r.resourceId, r.status,
    some (isoformat r.createdAt), r.resolvedAt.map isoformat⟩
  notFound := .appException "Alert not found" 404 "alert_not_found"
  alreadyExists := none

theorem takes_resolved (b : Backend) : b.takes 20 "resolved" = true := by
  have short : "resolved".length ≤ 20 := by decide
  simp [Backend.takes, short]

/- The assignments of `resolve_alert`. -/
def resolveAlert (b : Backend) (isoformat : Nat → String) : Edit (alertService b isoformat) where
  write loaded now row := { row with
    status := if loaded.status = "resolved" then row.status else "resolved"
    resolvedAt := if loaded.resolvedAt = some now then row.resolvedAt else some now }
  id _ _ _ := rfl
  name _ _ _ := rfl
  fits loaded now row fit := by
    simp only [alertService, Bool.and_eq_true] at fit ⊢
    refine ⟨fit.1, ?_⟩
    split
    · exact fit.2
    · exact takes_resolved b

inductive Call where
  | create (alert : Alert) (id : String) (now : Nat)
  | resolve (id : String)
  deriving Repr, DecidableEq

section Operations
variable {b : Backend} {isoformat : Nat → String}

def Call.op : Call → Op (alertService b isoformat)
  | .create alert id now => .create (alert.record id now)
  | .resolve id => .change id (resolveAlert b isoformat)

/- `if status:` and the condition that it adds to the query. -/
def asked (wanted : Option String) (value : String) : Bool :=
  match wanted with
  | none => true
  | some text => text = "" || value = text

/- `list_alerts`. The condition comes before the order and the limit, though it is added after them. -/
structure ListsAlerts (stored : Stored (alertService b isoformat)) (status severity : Option String) (limit : Nat)
    (items : List AlertRecordSummary) (ordered : List AlertRecord) : Prop where
  descending : Pages.Descending AlertRecord.createdAt
    (stored.rows.filter (fun row => asked status row.status && asked severity row.severity)) ordered
  items : items = (ordered.take limit).map (alertService b isoformat).serialize

end Operations

section History
variable {ι : Type}

/- The times that the resolutions of an alert have given it, in the order of their commits. -/
def resolutions (calls : ι → Call) (written : List (ι × Nat)) (k : String) : List Nat :=
  written.filterMap (fun entry => match calls entry.1 with
    | .resolve id => if id = k then some entry.2 else none
    | .create _ _ _ => none)

/- The ids of the alerts that have been created. -/
def created (calls : ι → Call) (writers : List ι) : List String :=
  writers.filterMap (fun i => match calls i with
    | .create _ id _ => some id
    | .resolve _ => none)

def unresolved (calls : ι → Call) (written : List (ι × Nat)) : List String :=
  (created calls (written.map Prod.fst)).filter (fun k => resolutions calls written k = [])

/- What a row says of the resolutions of its alert. -/
structure Tells (row : AlertRecord) (times : List Nat) : Prop where
  active : times = [] → row.status = "active" ∧ row.resolvedAt = none
  resolved : times ≠ [] → row.status = "resolved" ∧
    ∃ t ∈ times, row.resolvedAt = some t ∧ (times.Nodup → times.getLast? = some t)

/- What a session knows of them that has loaded the row. -/
def Saw (row : AlertRecord) (times : List Nat) : Prop :=
  (row.status = "active" ∧ row.resolvedAt = none) ∨ (row.status = "resolved" ∧ ∃ t ∈ times, row.resolvedAt = some t)

variable {calls : ι → Call} {written : List (ι × Nat)} {i : ι} {now : Nat} {k : String} {row loaded : AlertRecord}
  {times : List Nat}

theorem resolutions_resolve {id : String} (resolves : calls i = .resolve id) :
    resolutions calls (written ++ [(i, now)]) k = resolutions calls written k ++ if id = k then [now] else [] := by
  by_cases own : id = k <;> simp [resolutions, resolves, own]

theorem resolutions_create {alert : Alert} {id : String} {time : Nat} (creates : calls i = .create alert id time) :
    resolutions calls (written ++ [(i, now)]) k = resolutions calls written k := by
  simp [resolutions, creates]

theorem mem_created {writers : List ι} :
    k ∈ created calls writers ↔ ∃ i ∈ writers, ∃ alert now, calls i = .create alert k now := by
  simp only [created, List.mem_filterMap]
  constructor
  · rintro ⟨i, member, here⟩
    split at here
    · rename_i alert id time creates
      cases here
      exact ⟨i, member, alert, time, creates⟩
    · contradiction
  · rintro ⟨i, member, alert, time, creates⟩
    exact ⟨i, member, by simp [creates]⟩

theorem Tells.saw (tells : Tells row times) : Saw row times := by
  by_cases none : times = []
  · exact .inl (tells.active none)
  · obtain ⟨status, t, member, time, _⟩ := tells.resolved none
    exact .inr ⟨status, t, member, time⟩

theorem Saw.more (saw : Saw row times) (later : List Nat) : Saw row (times ++ later) := by
  obtain unresolved | ⟨status, t, member, time⟩ := saw
  · exact .inl unresolved
  · exact .inr ⟨status, t, List.mem_append_left _ member, time⟩

/-- A resolution that has read an older state of the row leaves the row as one that has read this one. -/
theorem Tells.write {b : Backend} {isoformat : Nat → String} (tells : Tells row times) (saw : Saw loaded times) (now : Nat) :
    Tells ((resolveAlert b isoformat).write loaded now row) (times ++ [now]) where
  active none := by simp at none
  resolved _ := by
    constructor
    · -- what was resolved when it was read still is
      change (if loaded.status = "resolved" then row.status else "resolved") = "resolved"
      split
      · rename_i resolved
        obtain ⟨active, _⟩ | ⟨_, t, member, _⟩ := saw
        · rw [active] at resolved
          exact absurd resolved (by decide)
        · exact (tells.resolved (List.ne_nil_of_mem member)).1
      · rfl
    · change ∃ t ∈ times ++ [now], (if loaded.resolvedAt = some now then row.resolvedAt else some now) = some t ∧ _
      split
      · -- the column is left out of the UPDATE, since an earlier resolution had the same time
        rename_i same
        obtain ⟨_, none⟩ | ⟨_, t, member, time⟩ := saw
        · rw [none] at same
          contradiction
        · obtain rfl : t = now := Option.some.inj (time.symm.trans same)
          obtain ⟨_, u, inside, own, _⟩ := tells.resolved (List.ne_nil_of_mem member)
          refine ⟨u, List.mem_append_left _ inside, own, fun distinct => ?_⟩
          exact absurd List.mem_cons_self ((List.nodup_append.mp distinct).2.2 t member t · rfl)
      · exact ⟨now, List.mem_append_right _ (List.mem_singleton_self now), rfl, fun _ => by simp⟩

end History

/- No two creations draw one id. -/
def Distinct {ι : Type} (calls : ι → Call) : Prop :=
  ∀ i j one other id now later, calls i = .create one id now → calls j = .create other id later → i = j

section Running
variable {b : Backend} {isoformat : Nat → String} {ι : Type} {calls : ι → Call} {s t : System ι (alertService b isoformat)}
  {after : Stored (alertService b isoformat)} {i : ι} {now : Nat} {es : List (ι × Event)}

def noAlerts (b : Backend) (isoformat : Nat → String) : Stored (alertService b isoformat) :=
  ⟨[], List.nodup_nil, List.nodup_nil, by simp⟩

theorem op_create {call : Call} {row : AlertRecord} (same : (call.op : Op (alertService b isoformat)) = .create row) :
    ∃ alert id now, call = .create alert id now ∧ row = alert.record id now := by
  cases call with
  | create alert id now =>
    cases same
    exact ⟨alert, id, now, rfl, rfl⟩
  | resolve id => contradiction

theorem op_change {call : Call} {id : String} {edit : Edit (alertService b isoformat)} (same : call.op = .change id edit) :
    call = .resolve id ∧ edit = resolveAlert b isoformat := by
  cases call with
  | create alert id now => contradiction
  | resolve other =>
    cases same
    exact ⟨rfl, rfl⟩

theorem op_delete {call : Call} {id : String} : (call.op : Op (alertService b isoformat)) ≠ .delete id := by
  cases call <;> simp [Call.op]

theorem fresh_of_distinct (distinct : Distinct calls) : Fresh (fun i => (calls i).op) (noAlerts b isoformat) where
  unused i row _ := by simp [noAlerts, Stored.keys]
  apart i j row other first second same := by
    obtain ⟨one, id, now, creates, rfl⟩ := op_create first
    obtain ⟨two, id', later, creates', rfl⟩ := op_create second
    have own : id = id' := same
    subst own
    exact distinct i j one two id now later creates creates'

theorem created_nodup (distinct : Distinct calls) {writers : List ι} (once : writers.Nodup) :
    (created calls writers).Nodup := by
  refine once.filterMap (fun i j k first second => ?_)
  split at first
  · rename_i one id now creates
    split at second
    · rename_i other id' later creates'
      cases first
      cases second
      exact distinct i j one other _ now later creates creates'
    · contradiction
  · contradiction

/- What every state keeps: each row tells its resolutions, and a session has seen some of them. -/
structure Kept (calls : ι → Call) (s : System ι (alertService b isoformat)) : Prop where
  rows : ∀ row ∈ s.stored.rows, Tells row (resolutions calls s.written row.id)
  loaded : ∀ i row, s.stage i = .loaded row → calls i = .resolve row.id ∧ Saw row (resolutions calls s.written row.id)
  known : ∀ k, resolutions calls s.written k ≠ [] → k ∈ s.stored.keys

theorem kept_begin : Kept calls (.begin (fun i => (calls i).op) (noAlerts b isoformat)) where
  rows row member := by simp [System.begin, noAlerts] at member
  loaded i row loaded := by
    rcases begins_pending ((calls i).op : Op (alertService b isoformat)) with same | same <;>
      simp [System.begin, same] at loaded
  known k some := by simp [System.begin, resolutions] at some

variable [DecidableEq ι]

theorem Kept.goto (kept : Kept calls s) {stage : Stage AlertRecord AlertRecordSummary}
    (read : ∀ row, stage = .loaded row → row ∈ s.stored.rows ∧ calls i = .resolve row.id) : Kept calls (s.goto i stage) where
  rows := kept.rows
  loaded j row loaded := by
    by_cases own : j = i
    · subst own
      obtain ⟨inside, resolves⟩ := read row (by simpa [System.goto] using loaded)
      exact ⟨resolves, (kept.rows row inside).saw⟩
    · exact kept.loaded j row (by simpa [System.goto, own] using loaded)
  known := kept.known

theorem Kept.write (kept : Kept calls s) {onward stage : Stage AlertRecord AlertRecordSummary}
    (flushes : Flushes s.stored now (s.stage i) (calls i).op after onward) (apart : ∀ row, stage ≠ .loaded row) :
    Kept calls ((s.write i now after).goto i stage) := by
  have still {j : ι} {row : AlertRecord} (loaded : ((s.write i now after).goto i stage).stage j = .loaded row) :
      s.stage j = .loaded row := by
    by_cases own : j = i
    · subst own
      exact absurd (by simpa [System.goto] using loaded) (apart row)
    · simpa [System.goto, System.write, own] using loaded
  generalize here : s.stage i = before at flushes
  generalize op : (calls i).op = call at flushes
  cases flushes with
  | create inserted =>
    obtain ⟨alert, id, time, creates, rfl⟩ := op_create op
    obtain ⟨rows, fresh⟩ := rows_of_insert inserted
    have same (k : String) : resolutions calls (s.written ++ [(i, now)]) k = resolutions calls s.written k :=
      resolutions_create creates
    constructor
    · intro row member
      change row ∈ after.rows at member
      change Tells row (resolutions calls (s.written ++ [(i, now)]) row.id)
      rw [same]
      rw [rows] at member
      rcases List.mem_append.mp member with old | new
      · exact kept.rows row old
      · cases List.mem_singleton.mp new
        have none : resolutions calls s.written id = [] := by
          by_contra some
          exact fresh (kept.known id some)
        exact ⟨fun _ => ⟨rfl, rfl⟩, fun some => absurd none some⟩
    · intro j row loaded
      change _ ∧ Saw row (resolutions calls (s.written ++ [(i, now)]) row.id)
      rw [same]
      exact kept.loaded j row (still loaded)
    · intro k some
      change k ∈ after.keys
      rw [keys_of_insert inserted]
      exact List.mem_append_left _ (kept.known k (by rw [← same]; exact some))
  | delete row id => exact absurd op op_delete
  | @change loaded id edit there =>
    obtain ⟨resolves, rfl⟩ := op_change op
    obtain ⟨own, saw⟩ := kept.loaded i loaded here
    obtain rfl : id = loaded.id := by
      rw [resolves] at own
      exact Call.resolve.inj own
    constructor
    · intro row member
      change row ∈ s.stored.rows.map _ at member
      change Tells row (resolutions calls (s.written ++ [(i, now)]) row.id)
      obtain ⟨old, inside, rfl⟩ := List.mem_map.mp member
      have tells := kept.rows old inside
      unfold Tables.rewrite
      split
      · rename_i same
        change old.id = loaded.id at same
        change Tells _ (resolutions calls (s.written ++ [(i, now)]) old.id)
        rw [resolutions_resolve resolves, if_pos same.symm]
        rw [← same] at saw
        exact tells.write saw now
      · rename_i other
        change old.id ≠ loaded.id at other
        rw [resolutions_resolve resolves, if_neg (Ne.symm other), List.append_nil]
        exact tells
    · intro j row read
      obtain ⟨target, seen⟩ := kept.loaded j row (still read)
      refine ⟨target, ?_⟩
      change Saw row (resolutions calls (s.written ++ [(i, now)]) row.id)
      rw [resolutions_resolve resolves]
      exact seen.more _
    · intro k some
      change k ∈ (Stored.change _ _ _ _ _).keys
      rw [keys_change]
      change resolutions calls (s.written ++ [(i, now)]) k ≠ [] at some
      rw [resolutions_resolve resolves] at some
      by_cases same : loaded.id = k
      · exact same ▸ there
      · rw [if_neg same, List.append_nil] at some
        exact kept.known k some

theorem step_kept {e : ι × Event} (kept : Kept calls s) (next : s.step (fun i => (calls i).op) e = some t) : Kept calls t := by
  obtain ⟨i, e⟩ := e
  obtain ⟨rfl, _, rfl⟩ | ⟨rfl, _, rfl⟩ | ⟨now, answer, exc, rfl, _, rfl, _⟩ |
    ⟨now, answer, after, onward, rfl, flushes, rfl⟩ | ⟨rfl, _, ⟨row, _, rfl⟩ | ⟨_, rfl⟩⟩ | ⟨rfl, _, rfl⟩ := step_cases next
  · refine kept.goto (fun row read => ?_)
    cases call : calls i with
    | create alert id now => simp [call, Call.op, Stored.look, alertService] at read
    | resolve id =>
      cases found : s.stored.find id with
      | none => simp [call, Call.op, Stored.look, found] at read
      | some other =>
        obtain rfl : other = row := by simpa [call, Call.op, Stored.look, found] using read
        obtain ⟨inside, same⟩ := find_eq_some found
        exact ⟨inside, congrArg Call.resolve same.symm⟩
  · exact kept.goto (by simp)
  · exact kept.goto (by simp)
  · refine kept.write flushes (fun row => ?_)
    rcases (flushes_from flushes).2 with rfl | ⟨summary, rfl⟩ <;> split <;> simp
  · exact kept.goto (by simp)
  · exact kept.goto (by simp)
  · exact kept.goto (by simp)

theorem run_kept (run : exec (System.step (fun i => (calls i).op)) (.begin (fun i => (calls i).op) (noAlerts b isoformat)) es = some s) :
    Kept calls s :=
  Runs.invariant _ (fun _ _ _ kept next => step_kept kept next) kept_begin run

/-- The alerts whose row is active are those that have been created and not resolved. -/
theorem active_rows (distinct : Distinct calls)
    (run : exec (System.step (fun i => (calls i).op)) (.begin (fun i => (calls i).op) (noAlerts b isoformat)) es = some s) :
    ((s.stored.rows.filter (fun row => decide (row.status = "active"))).map AlertRecord.id).Perm
      (unresolved calls s.written) := by
  have kept := run_kept run
  have sound := run_sound (fresh_of_distinct distinct) run
  have once : ((s.stored.rows.filter (fun row => decide (row.status = "active"))).map AlertRecord.id).Nodup :=
    s.stored.ids.sublist (List.filter_sublist.map AlertRecord.id)
  have other : (unresolved calls s.written).Nodup := (created_nodup distinct sound.once).filter _
  refine (List.perm_ext_iff_of_nodup once other).mpr (fun k => ?_)
  have there : k ∈ s.stored.keys ↔ k ∈ created calls (s.written.map Prod.fst) := by
    rw [sound.keys k, mem_created]
    constructor
    · rintro ⟨old | ⟨i, wrote, row, creates, same⟩, _⟩
      · simp [noAlerts, Stored.keys] at old
      · obtain ⟨alert, id, now, own, rfl⟩ := op_create creates
        cases same
        exact ⟨i, wrote, alert, now, own⟩
    · rintro ⟨i, wrote, alert, now, own⟩
      refine ⟨.inr ⟨i, wrote, alert.record k now, congrArg Call.op own, rfl⟩, ?_⟩
      rintro ⟨j, _, deletes⟩
      exact op_delete deletes
  simp only [List.mem_map, List.mem_filter, decide_eq_true_eq, unresolved, ← there]
  constructor
  · rintro ⟨row, ⟨inside, active⟩, rfl⟩
    refine ⟨mem_keys.mpr ⟨row, inside, rfl⟩, ?_⟩
    by_contra some
    have resolved := ((kept.rows row inside).resolved some).1
    rw [active] at resolved
    exact absurd resolved (by decide)
  · rintro ⟨inside, none⟩
    obtain ⟨row, member, same⟩ := mem_keys.mp inside
    change row.id = k at same
    subst same
    exact ⟨row, ⟨member, ((kept.rows row member).active none).1⟩, rfl⟩

/-- The dashboard reports the number of active rows, whatever it finds out about the servers. -/
theorem reported_alerts {env : Env} {alerts : List String} {computeService : Bool} {w : World} :
    wp (getDashboardSummary env alerts computeService) w
      (fun summary _ => summary.activeAlerts = (alerts.filter (· = "active")).length) (fun _ _ => True) := by
  simp only [getDashboardSummary, countActiveAlerts, ask, wp_bind, wp_get, wp_set, wp_ite, wp_pure, wp_throw]
  split
  · split
    · simp only [countInstances, wp_tryCatch, wp_bind, wp_pure]
      exact wp_mono (wp_true _ _) (fun _ _ _ => trivial) (fun _ _ _ => trivial)
    · trivial
  · trivial

/-- However resolutions and creations take turns and whichever statement fails, an alert is active and
without a time exactly as long as no resolution of it has been committed; afterwards it has the time of
one of them, the last unless two have the same. The dashboard counts the alerts that are created and
not resolved, and the listing of the active ones has these, each once. -/
theorem alerts_accounted (distinct : Distinct calls)
    (run : exec (System.step (fun i => (calls i).op)) (.begin (fun i => (calls i).op) (noAlerts b isoformat)) es = some s) :
    (∀ row ∈ s.stored.rows, Tells row (resolutions calls s.written row.id)) ∧
    (∀ env computeService w summary t,
      getDashboardSummary env (s.stored.rows.map AlertRecord.status) computeService w = .ok summary t →
      summary.activeAlerts = (unresolved calls s.written).length) ∧
    ∀ limit items ordered, ListsAlerts s.stored (some "active") none limit items ordered →
      (unresolved calls s.written).length ≤ limit → (items.map AlertRecordSummary.id).Perm (unresolved calls s.written) := by
  have perm := active_rows distinct run
  refine ⟨(run_kept run).rows, fun env computeService w summary t reported => ?_, fun limit items ordered lists enough => ?_⟩
  · rw [wp_of_ok reported_alerts reported, List.filter_map, List.length_map, ← perm.length_eq, List.length_map]
    rfl
  · have same : ordered.Perm (s.stored.rows.filter (fun row => decide (row.status = "active"))) := by
      refine lists.descending.perm.trans (List.Perm.of_eq (List.filter_congr (fun row _ => ?_)))
      simp [asked]
    have all : ordered.take limit = ordered := by
      refine List.take_of_length_le ?_
      rw [same.length_eq, ← List.length_map AlertRecord.id, perm.length_eq]
      exact enough
    rw [lists.items, all, List.map_map]
    exact (same.map AlertRecord.id).trans perm

end Running

def diskFull : Alert where
  severity := "critical"
  title := "disk full"
  source := "hypervisor-01"

/- Two alerts, and two resolutions of the first that are under way at the same time. -/
def alertCalls : Fin 4 → Call
  | 0 => .create diskFull "a-1" 0
  | 1 => .create diskFull "a-2" 1
  | _ => .resolve "a-1"

def resolvedTwice : List (Fin 4 × Event) :=
  [(0, .commit 0 .carried), (1, .commit 1 .lost), (2, .look true), (3, .look true), (3, .commit 7 .carried),
    (2, .commit 5 .carried), (2, .refresh true)]

theorem alertCalls_distinct : Distinct alertCalls := by
  have own {i : Fin 4} {alert : Alert} {id : String} {now : Nat} (creates : alertCalls i = .create alert id now) :
      (i = 0 ∧ id = "a-1") ∨ (i = 1 ∧ id = "a-2") := by
    match i with
    | 0 =>
      cases creates
      exact .inl ⟨rfl, rfl⟩
    | 1 =>
      cases creates
      exact .inr ⟨rfl, rfl⟩
    | 2 => contradiction
    | 3 => contradiction
  intro i j one other id now later first second
  obtain ⟨rfl, rfl⟩ | ⟨rfl, rfl⟩ := own first
  · obtain ⟨rfl, _⟩ | ⟨_, same⟩ := own second
    · rfl
    · exact absurd same (by decide)
  · obtain ⟨_, same⟩ | ⟨rfl, _⟩ := own second
    · exact absurd same (by decide)
    · rfl

/-- The later commit has set the earlier time, and the alert whose creation got no answer is counted. -/
theorem one_alert_unresolved : ∃ s, exec (System.step (fun i => (alertCalls i).op))
      (.begin (fun i => (alertCalls i).op) (noAlerts sqlite toString)) resolvedTwice = some s ∧
    unresolved alertCalls s.written = ["a-2"] ∧ (∃ row ∈ s.stored.rows, row.resolvedAt = some 5) ∧
    ([(alertService sqlite toString).serialize (diskFull.record "a-2" 1)].map AlertRecordSummary.id).Perm
      (unresolved alertCalls s.written) := by
  obtain ⟨s, run, written, rows⟩ : ∃ s : System (Fin 4) (alertService sqlite toString),
      exec (System.step (fun i => (alertCalls i).op)) (.begin (fun i => (alertCalls i).op) (noAlerts sqlite toString))
        resolvedTwice = some s ∧ s.written = [(0, 0), (1, 1), (3, 7), (2, 5)] ∧
      s.stored.rows = [{ diskFull.record "a-1" 0 with status := "resolved", resolvedAt := some 5 }, diskFull.record "a-2" 1] :=
    ⟨_, rfl, rfl, rfl⟩
  have left : unresolved alertCalls s.written = ["a-2"] := by
    rw [written]
    decide
  have listed : ListsAlerts s.stored (some "active") none 50 [(alertService sqlite toString).serialize (diskFull.record "a-2" 1)]
      [diskFull.record "a-2" 1] := by
    refine ⟨⟨?_, List.pairwise_singleton _ _⟩, rfl⟩
    rw [rows]
    exact List.Perm.refl _
  refine ⟨s, run, left, ⟨_, by rw [rows]; exact List.mem_cons_self, rfl⟩, ?_⟩
  exact (alerts_accounted alertCalls_distinct run).2.2 50 _ _ listed (by rw [left]; decide)

end VMachine.Monitoring.Alerts
