import VMachine.Database.Session
import VMachine.VMware.PlanRequests

/-! `AssessmentPersistenceService`: assessments and the plans that are saved for them, in two
tables with a foreign key from the second to the first. The conversions of a record read the
relationship to the other table, which no query loads; under an asynchronous session that
raises. -/
namespace VMachine.VMware
open Py OpenStack Database Tables

/- A database server. SQLite leaves a foreign key alone unless it is told otherwise. -/
structure Server where
  backend : Backend
  enforcesForeignKeys : Bool

def postgresqlServer : Server := ⟨postgresql, true⟩

def sqliteServer : Server := ⟨sqlite, false⟩

/- A row of migration_assessments. The JSON columns are plain values. -/
structure MigrationAssessment (F : Type) where
  id : String
  vmId : String
  vmName : String
  vmPowerState : Option String
  vmGuestOs : Option String
  compatible : Bool
  compatibilityScore : F
  compatibilityDetail : Option Val
  flavorMatch : Option Val
  networkMappings : Option Val
  diskMappings : Option Val
  mappingScore : F
  sourceVmMetadata : Option Val
  issues : Option (List String)
  warnings : Option (List String)
  assessedAt : Nat
  expiresAt : Option Nat

structure PersistedAssessmentDetail (F : Type) extends PersistedAssessmentSummary F where
  compatibilityDetail : Option Val
  flavorMatch : Option Val
  networkMappings : Option Val
  diskMappings : Option Val
  sourceVmMetadata : Option Val
  issues : Option (List String)
  warnings : Option (List String)
  plans : List PersistedPlanSummary

/- The arguments of `save_assessment`, without the time to live that it does not use. -/
structure AssessmentValues (F : Type) where
  vmId : String
  vmName : String
  compatible : Bool
  compatibilityScore : F
  vmPowerState : Option String := none
  vmGuestOs : Option String := none
  compatibilityDetail : Option Val := none
  flavorMatch : Option Val := none
  networkMappings : Option Val := none
  diskMappings : Option Val := none
  mappingScore : F
  sourceVmMetadata : Option Val := none
  issues : Option (List String) := none
  warnings : Option (List String) := none

/- The arguments of `save_plan`. -/
structure PlanValues where
  assessmentId : String
  vmId : String
  priority : Int := 5
  targetFlavorId : Option String := none
  targetFlavorName : Option String := none
  targetNetworkIds : Option Val := none
  targetVolumeTypes : Option Val := none
  estimatedDowntimeMinutes : Int := 0
  estimatedTotalMinutes : Int := 0
  steps : Option Val := none
  notes : Option String := none

def MigrationAssessment.fits {F : Type} (b : Backend) (r : MigrationAssessment F) : Bool :=
  b.takes 36 r.id && b.takes 255 r.vmId && b.takes 255 r.vmName && r.vmPowerState.all (b.takes 50) &&
    r.vmGuestOs.all (b.takes 255)

def MigrationPlan.fits (b : Backend) (r : MigrationPlan) : Bool :=
  b.takes 36 r.id && b.takes 36 r.assessmentId && b.takes 255 r.vmId && b.takesInt r.priority &&
    r.targetFlavorId.all (b.takes 255) && r.targetFlavorName.all (b.takes 255) && b.takesInt r.estimatedDowntimeMinutes &&
    b.takesInt r.estimatedTotalMinutes && b.takes 50 r.status

/- The two tables. Where the server looks after it, every plan has its assessment. -/
structure Persisted (F : Type) (server : Server) where
  assessments : Table (MigrationAssessment.id (F := F)) (MigrationAssessment.fits server.backend)
  plans : Table MigrationPlan.id (MigrationPlan.fits server.backend)
  linked : server.enforcesForeignKeys = true → ∀ plan ∈ plans.rows, plan.assessmentId ∈ assessments.keys

def Persisted.empty (F : Type) (server : Server) : Persisted F server where
  assessments := ⟨[], List.nodup_nil, by simp⟩
  plans := ⟨[], List.nodup_nil, by simp⟩
  linked := by simp

/- A minute and a day, in microseconds. -/
def minute : Nat := 60 * 1000000

def day : Nat := 24 * 60 * minute

/- `replace(hour=23, minute=59, second=0, microsecond=0)` of a time in UTC. -/
def lateToday (now : Nat) : Nat := now / day * day + (23 * 60 + 59) * minute

/- What is raised for a plan whose assessment is not there. -/
def foreignKeyViolation : Exc :=
  .foreign "IntegrityError" "insert or update on table \"migration_plans\" violates foreign key constraint"

/- The row of `save_assessment`, with the id and the time that its columns default to. -/
def newAssessment {F : Type} (values : AssessmentValues F) (id : String) (now stamp : Nat) : MigrationAssessment F where
  id := id
  vmId := values.vmId
  vmName := values.vmName
  vmPowerState := values.vmPowerState
  vmGuestOs := values.vmGuestOs
  compatible := values.compatible
  compatibilityScore := values.compatibilityScore
  compatibilityDetail := values.compatibilityDetail
  flavorMatch := values.flavorMatch
  networkMappings := values.networkMappings
  diskMappings := values.diskMappings
  mappingScore := values.mappingScore
  sourceVmMetadata := values.sourceVmMetadata
  issues := values.issues
  warnings := values.warnings
  assessedAt := stamp
  expiresAt := some (lateToday now)

def newPlan (values : PlanValues) (id : String) (stamp : Nat) : MigrationPlan where
  id := id
  assessmentId := values.assessmentId
  vmId := values.vmId
  priority := values.priority
  targetFlavorId := values.targetFlavorId
  targetFlavorName := values.targetFlavorName
  targetNetworkIds := values.targetNetworkIds
  targetVolumeTypes := values.targetVolumeTypes
  estimatedDowntimeMinutes := values.estimatedDowntimeMinutes
  estimatedTotalMinutes := values.estimatedTotalMinutes
  steps := values.steps
  status := "pending"
  notes := values.notes
  createdAt := stamp
  updatedAt := stamp

namespace Persisted
variable {F : Type} {server : Server} (db : Persisted F server)

def saveAssessment (values : AssessmentValues F) (id : String) (now stamp : Nat) :
    Except Exc (MigrationAssessment F × Persisted F server) :=
  match inserted : db.assessments.insert (newAssessment values id now stamp) with
  | .ok written => .ok (newAssessment values id now stamp, {
      assessments := written
      plans := db.plans
      linked := by
        intro enforced plan member
        have known := db.linked enforced plan member
        rw [Table.keys, (Table.rows_of_insert inserted).1, List.map_append]
        exact List.mem_append_left _ known })
  | .error violation => .error (refusal violation)

def savePlan (values : PlanValues) (id : String) (stamp : Nat) : Except Exc (MigrationPlan × Persisted F server) :=
  if known : server.enforcesForeignKeys = true → values.assessmentId ∈ db.assessments.keys then
    match inserted : db.plans.insert (newPlan values id stamp) with
    | .ok written => .ok (newPlan values id stamp, {
        assessments := db.assessments
        plans := written
        linked := by
          intro enforced plan member
          rw [(Table.rows_of_insert inserted).1] at member
          obtain old | new := List.mem_append.mp member
          · exact db.linked enforced plan old
          · rw [List.mem_singleton.mp new]
            exact known enforced })
    | .error violation => .error (refusal violation)
  else .error foreignKeyViolation

/- The session deletes the plans of the assessment with it. -/
def remove (assessmentId : String) : Persisted F server where
  assessments := db.assessments.delete (fun r => r.id == assessmentId)
  plans := db.plans.delete (fun r => r.assessmentId == assessmentId)
  linked := by
    intro enforced plan member
    obtain ⟨stays, another⟩ := List.mem_filter.mp member
    obtain ⟨record, present, own⟩ := List.mem_map.mp (db.linked enforced plan stays)
    refine List.mem_map.mpr ⟨record, List.mem_filter.mpr ⟨present, ?_⟩, own⟩
    simpa [own] using another

/- `select(MigrationAssessment).where(MigrationAssessment.id == assessment_id)`, one or none. -/
def selectAssessment (assessmentId : String) : Except Exc (Option (MigrationAssessment F)) :=
  scalarOneOrNone (db.assessments.rows.filter (fun r => r.id == assessmentId))

def deleteAssessment (assessmentId : String) : Except Exc (Bool × Persisted F server) := do
  match ← db.selectAssessment assessmentId with
  | none => return (false, db)
  | some _ => return (true, db.remove assessmentId)

/- The table of the plans, as the plan endpoints see it. -/
def store : Store := ⟨db.plans.rows, fun _ rows => rows⟩

end Persisted

section Conversions
variable {F : Type} (site : Site) {server : Server} (db : Persisted F server)

def MigrationAssessment.summary (r : MigrationAssessment F) : PersistedAssessmentSummary F :=
  ⟨r.id, r.vmId, r.vmName, r.compatible, r.compatibilityScore, site.isoformat r.assessedAt⟩

/- `_to_detail`, with what reading `record.plans` gives. -/
def toDetail (plans : Except Exc (List MigrationPlan)) (record : MigrationAssessment F) :
    Except Exc (PersistedAssessmentDetail F) := do
  let plans ← plans
  return { record.summary site with
    compatibilityDetail := record.compatibilityDetail
    flavorMatch := record.flavorMatch
    networkMappings := record.networkMappings
    diskMappings := record.diskMappings
    sourceVmMetadata := record.sourceVmMetadata
    issues := record.issues
    warnings := record.warnings
    plans := plans.map (MigrationPlan.summary site) }

/- `get_assessment`, with what reading the plans of a record gives. -/
def readAssessment (plansOf : MigrationAssessment F → Except Exc (List MigrationPlan)) (assessmentId : String) :
    Except Exc (Option (PersistedAssessmentDetail F)) := do
  match ← db.selectAssessment assessmentId with
  | none => return none
  | some record => some <$> toDetail site (plansOf record) record

/- The query does not load the plans. -/
def getAssessment (assessmentId : String) : Except Exc (Option (PersistedAssessmentDetail F)) :=
  readAssessment site db (fun _ => .error missingGreenlet) assessmentId

/- `get_plan` in the same way. -/
def readPlan (assessmentOf : MigrationPlan → Except Exc (Option (PersistedAssessmentSummary F))) (planId : String) :
    Except Exc (Option (PersistedPlanDetail F)) :=
  match db.store.plans.find? (fun r => r.id == planId) with
  | none => .ok none
  | some record => (toPlanDetail site (assessmentOf record) record).map some

end Conversions

/- A call of the service. The id and the times are its circumstances. -/
inductive PersistenceCall (F : Type) where
  | saveAssessment (values : AssessmentValues F) (id : String) (now stamp : Nat)
  | savePlan (values : PlanValues) (id : String) (stamp : Nat)
  | deleteAssessment (assessmentId : String)

/- What a call that has returned tells its caller. -/
inductive Logged (F : Type) where
  | assessment (record : MigrationAssessment F)
  | plan (record : MigrationPlan)
  | deleted (assessmentId : String)

structure Persistence (F : Type) (server : Server) where
  db : Persisted F server
  log : List (Logged F)

def Persistence.initial (F : Type) (server : Server) : Persistence F server := ⟨.empty F server, []⟩

/- A call that raises leaves the tables as they were. -/
def persistenceStep {F : Type} {server : Server} (p : Persistence F server) :
    PersistenceCall F → Option (Persistence F server)
  | .saveAssessment values id now stamp =>
    match p.db.saveAssessment values id now stamp with
    | .ok (record, db) => some ⟨db, p.log ++ [.assessment record]⟩
    | .error _ => some p
  | .savePlan values id stamp =>
    match p.db.savePlan values id stamp with
    | .ok (record, db) => some ⟨db, p.log ++ [.plan record]⟩
    | .error _ => some p
  | .deleteAssessment assessmentId =>
    match p.db.deleteAssessment assessmentId with
    | .ok (_, db) => some ⟨db, p.log ++ [.deleted assessmentId]⟩
    | .error _ => some p

/- What a caller has saved and not deleted again. -/
structure Ledger (F : Type) where
  assessments : List (MigrationAssessment F)
  plans : List MigrationPlan

def Ledger.enter {F : Type} (l : Ledger F) : Logged F → Ledger F
  | .assessment record => { l with assessments := l.assessments ++ [record] }
  | .plan record => { l with plans := l.plans ++ [record] }
  | .deleted assessmentId =>
    { assessments := l.assessments.filter (fun r => !(r.id == assessmentId))
      plans := l.plans.filter (fun r => !(r.assessmentId == assessmentId)) }

def ledger {F : Type} (log : List (Logged F)) : Ledger F := log.foldl Ledger.enter ⟨[], []⟩

/- The detail has the values that were saved. -/
structure MigrationAssessment.ShownBy {F : Type} (site : Site) (r : MigrationAssessment F)
    (detail : PersistedAssessmentDetail F) : Prop where
  summary : detail.toPersistedAssessmentSummary = r.summary site
  compatibilityDetail : detail.compatibilityDetail = r.compatibilityDetail
  flavorMatch : detail.flavorMatch = r.flavorMatch
  networkMappings : detail.networkMappings = r.networkMappings
  diskMappings : detail.diskMappings = r.diskMappings
  sourceVmMetadata : detail.sourceVmMetadata = r.sourceVmMetadata
  issues : detail.issues = r.issues
  warnings : detail.warnings = r.warnings

structure MigrationPlan.ShownBy {F : Type} (site : Site) (r : MigrationPlan) (detail : PersistedPlanDetail F) : Prop where
  summary : detail.toPersistedPlanSummary = r.summary site
  assessmentId : detail.assessmentId = r.assessmentId
  targetFlavorId : detail.targetFlavorId = r.targetFlavorId
  targetFlavorName : detail.targetFlavorName = r.targetFlavorName
  targetNetworkIds : detail.targetNetworkIds = r.targetNetworkIds
  targetVolumeTypes : detail.targetVolumeTypes = r.targetVolumeTypes
  estimatedDowntimeMinutes : detail.estimatedDowntimeMinutes = r.estimatedDowntimeMinutes
  steps : detail.steps = r.steps
  notes : detail.notes = r.notes
  updatedAt : detail.updatedAt = site.isoformat r.updatedAt

/- What is asked of two ways to read the tables, after the calls of the log: what is kept is
returned, with what it belongs to, and what has been deleted is not found. -/
structure ReadBack {F : Type} (site : Site) (assessment : String → Except Exc (Option (PersistedAssessmentDetail F)))
    (plan : String → Except Exc (Option (PersistedPlanDetail F))) (log : List (Logged F)) : Prop where
  assessments : ∀ r ∈ (ledger log).assessments, ∃ detail, assessment r.id = .ok (some detail) ∧ r.ShownBy site detail ∧
    detail.plans.Perm (((ledger log).plans.filter (fun q => q.assessmentId == r.id)).map (MigrationPlan.summary site))
  plans : ∀ r ∈ (ledger log).plans, ∃ detail, plan r.id = .ok (some detail) ∧ r.ShownBy site detail ∧
    ∀ a ∈ (ledger log).assessments, a.id = r.assessmentId → detail.assessment = some (a.summary site)
  deleted : ∀ assessmentId, .deleted assessmentId ∈ log → assessmentId ∉ (ledger log).assessments.map MigrationAssessment.id →
    assessment assessmentId = .ok none
  deletedWith : ∀ r, .plan r ∈ log → r.id ∉ (ledger log).plans.map MigrationPlan.id → plan r.id = .ok none

section Ledgers
variable {F : Type} {server : Server} {p q : Persistence F server} {call : PersistenceCall F}

theorem ledger_append (log : List (Logged F)) (entry : Logged F) : ledger (log ++ [entry]) = (ledger log).enter entry := by
  simp [ledger]

theorem selectAssessment_cases (db : Persisted F server) (assessmentId : String) :
    (db.selectAssessment assessmentId = .ok none ∧ ∀ r ∈ db.assessments.rows, r.id ≠ assessmentId) ∨
    ∃ r ∈ db.assessments.rows, r.id = assessmentId ∧ db.selectAssessment assessmentId = .ok (some r) := by
  have keyed : ∀ row other : MigrationAssessment F, (row.id == assessmentId) = true → (other.id == assessmentId) = true →
      row.id = other.id := by
    intro row other own its
    rw [beq_iff_eq.mp own, beq_iff_eq.mp its]
  obtain ⟨none, others⟩ | ⟨row, inside, own, found⟩ := scalarOneOrNone_keyed db.assessments keyed
  · exact .inl ⟨none, fun r member => beq_eq_false_iff_ne.mp (others r member)⟩
  · exact .inr ⟨row, inside, beq_iff_eq.mp own, found⟩

theorem rows_of_saveAssessment {db written : Persisted F server} {values : AssessmentValues F} {id : String}
    {now stamp : Nat} {record : MigrationAssessment F}
    (saved : db.saveAssessment values id now stamp = .ok (record, written)) :
    written.assessments.rows = db.assessments.rows ++ [record] ∧ written.plans.rows = db.plans.rows := by
  unfold Persisted.saveAssessment at saved
  split at saved
  · rename_i table inserted
    cases saved
    exact ⟨(Table.rows_of_insert inserted).1, rfl⟩
  · contradiction

theorem rows_of_savePlan {db written : Persisted F server} {values : PlanValues} {id : String} {stamp : Nat}
    {record : MigrationPlan} (saved : db.savePlan values id stamp = .ok (record, written)) :
    written.assessments.rows = db.assessments.rows ∧ written.plans.rows = db.plans.rows ++ [record] := by
  unfold Persisted.savePlan at saved
  split at saved
  · split at saved
    · rename_i table inserted
      cases saved
      exact ⟨rfl, (Table.rows_of_insert inserted).1⟩
    · contradiction
  · contradiction

/-- What a call does to the tables and tells its caller. -/
theorem persistenceStep_cases (h : persistenceStep p call = some q) :
    q = p ∨
    (∃ record, q.log = p.log ++ [.assessment record] ∧ q.db.assessments.rows = p.db.assessments.rows ++ [record] ∧
      q.db.plans.rows = p.db.plans.rows) ∨
    (∃ record, q.log = p.log ++ [.plan record] ∧ q.db.assessments.rows = p.db.assessments.rows ∧
      q.db.plans.rows = p.db.plans.rows ++ [record]) ∨
    (∃ assessmentId, q.log = p.log ++ [.deleted assessmentId] ∧
      ((q.db = p.db ∧ ∀ r ∈ p.db.assessments.rows, r.id ≠ assessmentId) ∨ q.db = p.db.remove assessmentId)) := by
  cases call with
  | saveAssessment values id now stamp =>
    simp only [persistenceStep] at h
    split at h
    · rename_i record db saved
      cases h
      exact .inr (.inl ⟨record, rfl, rows_of_saveAssessment saved⟩)
    · cases h
      exact .inl rfl
  | savePlan values id stamp =>
    simp only [persistenceStep] at h
    split at h
    · rename_i record db saved
      cases h
      exact .inr (.inr (.inl ⟨record, rfl, rows_of_savePlan saved⟩))
    · cases h
      exact .inl rfl
  | deleteAssessment assessmentId =>
    refine .inr (.inr (.inr ⟨assessmentId, ?_⟩))
    simp only [persistenceStep, Persisted.deleteAssessment] at h
    obtain ⟨none, others⟩ | ⟨r, inside, own, found⟩ := selectAssessment_cases p.db assessmentId
    · rw [none] at h
      cases h
      exact ⟨rfl, .inl ⟨rfl, others⟩⟩
    · rw [found] at h
      cases h
      exact ⟨rfl, .inr rfl⟩

/- The ledger and the tables. A plan of an assessment that was never there outlives the deletion
of that assessment. -/
structure Kept (p : Persistence F server) : Prop where
  assessments : (ledger p.log).assessments = p.db.assessments.rows
  plans : ∀ r ∈ (ledger p.log).plans, r ∈ p.db.plans.rows
  logged : ∀ r ∈ p.db.plans.rows, .plan r ∈ p.log
  allPlans : server.enforcesForeignKeys = true → (ledger p.log).plans = p.db.plans.rows

theorem Kept.saveAssessment (kept : Kept p) {record : MigrationAssessment F} (log : q.log = p.log ++ [.assessment record])
    (assessments : q.db.assessments.rows = p.db.assessments.rows ++ [record])
    (plans : q.db.plans.rows = p.db.plans.rows) : Kept q := by
  constructor
  · rw [log, ledger_append, assessments, ← kept.assessments]
    rfl
  · rw [log, ledger_append, plans]
    exact kept.plans
  · rw [log, plans]
    intro r member
    exact List.mem_append_left _ (kept.logged r member)
  · rw [log, ledger_append, plans]
    exact kept.allPlans

theorem Kept.savePlan (kept : Kept p) {record : MigrationPlan} (log : q.log = p.log ++ [.plan record])
    (assessments : q.db.assessments.rows = p.db.assessments.rows)
    (plans : q.db.plans.rows = p.db.plans.rows ++ [record]) : Kept q := by
  constructor
  · rw [log, ledger_append, assessments]
    exact kept.assessments
  · rw [log, ledger_append, plans]
    intro r member
    obtain old | new := List.mem_append.mp member
    · exact List.mem_append_left _ (kept.plans r old)
    · exact List.mem_append_right _ new
  · rw [log, plans]
    intro r member
    obtain old | new := List.mem_append.mp member
    · exact List.mem_append_left _ (kept.logged r old)
    · rw [List.mem_singleton.mp new]
      exact List.mem_append_right _ (List.mem_singleton_self _)
  · rw [log, ledger_append, plans]
    intro enforced
    rw [← kept.allPlans enforced]
    rfl

theorem Kept.deleted (kept : Kept p) {assessmentId : String} (log : q.log = p.log ++ [.deleted assessmentId])
    (assessments : q.db.assessments.rows = p.db.assessments.rows.filter (fun r => !(r.id == assessmentId)))
    (stays : ∀ r ∈ p.db.plans.rows, r.assessmentId ≠ assessmentId → r ∈ q.db.plans.rows)
    (before : ∀ r ∈ q.db.plans.rows, r ∈ p.db.plans.rows)
    (plans : server.enforcesForeignKeys = true →
      q.db.plans.rows = p.db.plans.rows.filter (fun r => !(r.assessmentId == assessmentId))) : Kept q := by
  constructor
  · rw [log, ledger_append, assessments, ← kept.assessments]
    rfl
  · rw [log, ledger_append]
    intro r member
    obtain ⟨old, another⟩ := List.mem_filter.mp member
    exact stays r (kept.plans r old) (by simpa using another)
  · rw [log]
    intro r member
    exact List.mem_append_left _ (kept.logged r (before r member))
  · intro enforced
    rw [log, ledger_append, plans enforced, ← kept.allPlans enforced]
    rfl

theorem persistenceStep_kept (kept : Kept p) (h : persistenceStep p call = some q) : Kept q := by
  obtain rfl | ⟨record, log, assessments, plans⟩ | ⟨record, log, assessments, plans⟩ | ⟨assessmentId, log, outcome⟩ :=
    persistenceStep_cases h
  · exact kept
  · exact kept.saveAssessment log assessments plans
  · exact kept.savePlan log assessments plans
  · obtain ⟨same, others⟩ | removed := outcome
    · have whole : p.db.assessments.rows.filter (fun r => !(r.id == assessmentId)) = p.db.assessments.rows := by
        apply List.filter_eq_self.mpr
        intro r member
        simpa using others r member
      have linked : server.enforcesForeignKeys = true → ∀ r ∈ p.db.plans.rows, r.assessmentId ≠ assessmentId := by
        intro enforced r member own
        obtain ⟨a, inside, its⟩ := List.mem_map.mp (p.db.linked enforced r member)
        exact others a inside (its.trans own)
      refine kept.deleted log (by rw [same, whole]) (fun r member _ => same ▸ member) (fun r member => same ▸ member) ?_
      intro enforced
      rw [same]
      apply (List.filter_eq_self.mpr _).symm
      intro r member
      simpa using linked enforced r member
    · refine kept.deleted log (by rw [removed]; rfl) (fun r member another => ?_) (fun r member => ?_) (fun _ => ?_)
      · rw [removed]
        exact List.mem_filter.mpr ⟨member, by simpa using another⟩
      · rw [removed] at member
        exact List.mem_of_mem_filter member
      · rw [removed]
        rfl

theorem run_kept {calls : List (PersistenceCall F)}
    (run : Runs.exec persistenceStep (Persistence.initial F server) calls = some p) : Kept p := by
  have nothing : Kept (Persistence.initial F server) := ⟨rfl, by simp [ledger, Persistence.initial],
    by simp [Persistence.initial, Persisted.empty], fun _ => rfl⟩
  exact Runs.invariant persistenceStep (fun _ _ _ kept h => persistenceStep_kept kept h) nothing run

end Ledgers

section Reading
variable {F : Type} {site : Site} {server : Server} {db : Persisted F server} {p : Persistence F server}
  {plansOf : MigrationAssessment F → Except Exc (List MigrationPlan)}
  {assessmentOf : MigrationPlan → Except Exc (Option (PersistedAssessmentSummary F))}

theorem readAssessment_of_mem {r : MigrationAssessment F} (inside : r ∈ db.assessments.rows) :
    readAssessment site db plansOf r.id = some <$> toDetail site (plansOf r) r := by
  obtain ⟨_, others⟩ | ⟨row, there, own, found⟩ := selectAssessment_cases db r.id
  · exact absurd rfl (others r inside)
  · obtain rfl := Table.eq_of_key there inside own
    unfold readAssessment
    rw [found]
    rfl

theorem readAssessment_of_absent {assessmentId : String} (absent : ∀ r ∈ db.assessments.rows, r.id ≠ assessmentId) :
    readAssessment site db plansOf assessmentId = .ok none := by
  obtain ⟨none, _⟩ | ⟨row, there, own, _⟩ := selectAssessment_cases db assessmentId
  · unfold readAssessment
    rw [none]
    rfl
  · exact absurd own (absent row there)

theorem readPlan_of_mem {r : MigrationPlan} (inside : r ∈ db.plans.rows) :
    readPlan site db assessmentOf r.id = (toPlanDetail site (assessmentOf r) r).map some := by
  have found : db.store.plans.find? (fun other => other.id == r.id) = some r :=
    Table.find?_eq_some inside (beq_self_eq_true _) (fun _ own => beq_iff_eq.mp own)
  unfold readPlan
  rw [found]

theorem readPlan_of_absent {planId : String} (absent : ∀ r ∈ db.plans.rows, r.id ≠ planId) :
    readPlan site db assessmentOf planId = .ok none := by
  have none : db.store.plans.find? (fun r => r.id == planId) = none := by
    apply List.find?_eq_none.mpr
    intro r member own
    exact absent r member (beq_iff_eq.mp own)
  unfold readPlan
  rw [none]

/-- No query loads a relationship, so the conversion of a row raises. -/
theorem getAssessment_raises {r : MigrationAssessment F} (inside : r ∈ db.assessments.rows) :
    getAssessment site db r.id = .error missingGreenlet := readAssessment_of_mem inside

theorem getPlan_raises {r : MigrationPlan} (inside : r ∈ db.plans.rows) :
    (getPlan site db.store r.id : Except Exc (Option (PersistedPlanDetail F))) = .error missingGreenlet :=
  readPlan_of_mem inside

/-- An assessment that has been deleted is not found, however its relationship is read. -/
theorem assessment_unfound (kept : Kept p) {assessmentId : String}
    (gone : assessmentId ∉ (ledger p.log).assessments.map MigrationAssessment.id) :
    readAssessment site p.db plansOf assessmentId = .ok none := by
  rw [kept.assessments] at gone
  apply readAssessment_of_absent
  intro r member own
  exact gone (List.mem_map.mpr ⟨r, member, own⟩)

end Reading

/- On SQLite a plan can be saved for an assessment that is not there, and outlives its deletion. -/
example : (Runs.exec persistenceStep (.initial ℚ sqliteServer)
    [.savePlan { assessmentId := "assessment-1", vmId := "vm-1" } "plan-1" 0, .deleteAssessment "assessment-1"]).map
      (fun p => (p.db.plans.rows.length, (ledger p.log).plans.length)) = some (1, 0) := by decide +kernel

/-- After any calls, what was saved is read back exactly if nothing is left to be read: a row of
either table makes its query raise. -/
theorem read_back_iff {F : Type} (site : Site) (server : Server) {calls : List (PersistenceCall F)}
    {p : Persistence F server} (run : Runs.exec persistenceStep (Persistence.initial F server) calls = some p) :
    ReadBack site (getAssessment site p.db) (getPlan site p.db.store) p.log ↔
      p.db.assessments.rows = [] ∧ p.db.plans.rows = [] := by
  have kept := run_kept run
  constructor
  · intro back
    constructor
    · apply List.eq_nil_iff_forall_not_mem.mpr
      intro r member
      have listed : r ∈ (ledger p.log).assessments := kept.assessments ▸ member
      obtain ⟨detail, returned, _⟩ := back.assessments r listed
      rw [getAssessment_raises member] at returned
      contradiction
    · apply List.eq_nil_iff_forall_not_mem.mpr
      intro r member
      have raised := @getPlan_raises F site server p.db r member
      by_cases listed : r.id ∈ (ledger p.log).plans.map MigrationPlan.id
      · obtain ⟨other, inside, own⟩ := List.mem_map.mp listed
        obtain ⟨detail, returned, _⟩ := back.plans other inside
        rw [own, raised] at returned
        contradiction
      · have unfound := back.deletedWith r (kept.logged r member) listed
        rw [raised] at unfound
        contradiction
  · rintro ⟨noAssessment, noPlan⟩
    have assessments : (ledger p.log).assessments = [] := kept.assessments.trans noAssessment
    have plans : (ledger p.log).plans = [] := by
      apply List.eq_nil_iff_forall_not_mem.mpr
      intro r listed
      have member := kept.plans r listed
      rw [noPlan] at member
      contradiction
    constructor
    · simp [assessments]
    · simp [plans]
    · intro assessmentId _ gone
      exact assessment_unfound kept gone
    · intro r _ _
      exact readPlan_of_absent (by simp [noPlan])

/- An assessment with one plan, and its deletion. -/
def savedCalls : List (PersistenceCall ℚ) :=
  [.saveAssessment { vmId := "vm-1", vmName := "web", compatible := true, compatibilityScore := 90, mappingScore := 0 }
      "assessment-1" 0 0,
    .savePlan { assessmentId := "assessment-1", vmId := "vm-1" } "plan-1" 1]

theorem deleted_not_found : ∃ p : Persistence ℚ postgresqlServer,
    Runs.exec persistenceStep (.initial ℚ postgresqlServer) (savedCalls ++ [.deleteAssessment "assessment-1"]) = some p ∧
    p.log.length = 3 ∧ ReadBack smallSite (getAssessment smallSite p.db) (getPlan smallSite p.db.store) p.log := by
  have ends : (Runs.exec persistenceStep (.initial ℚ postgresqlServer)
      (savedCalls ++ [.deleteAssessment "assessment-1"])).map
        (fun p => (p.log.length, p.db.assessments.rows.length, p.db.plans.rows.length)) = some (3, 0, 0) := by
    decide +kernel
  obtain ⟨p, run, sizes⟩ := Option.map_eq_some_iff.mp ends
  simp only [Prod.mk.injEq, List.length_eq_zero_iff] at sizes
  exact ⟨p, run, sizes.1, (read_back_iff smallSite postgresqlServer run).mpr sizes.2⟩

/- The property asked of the service, over all its runs. -/
def RecordsReadBack : Prop :=
  ∀ (F : Type) (site : Site) (server : Server) (calls : List (PersistenceCall F)) (p : Persistence F server),
    Runs.exec persistenceStep (.initial F server) calls = some p →
      ReadBack site (getAssessment site p.db) (getPlan site p.db.store) p.log

theorem saved_assessment_unreadable : ¬ RecordsReadBack := by
  intro claim
  have saved : (Runs.exec persistenceStep (.initial ℚ postgresqlServer) savedCalls).map
      (fun p => (ledger p.log).assessments.map MigrationAssessment.id) = some ["assessment-1"] := by decide +kernel
  obtain ⟨p, run, listed⟩ := Option.map_eq_some_iff.mp saved
  obtain ⟨r, member, _⟩ := List.mem_map.mp (listed ▸ List.mem_singleton_self "assessment-1")
  obtain ⟨detail, returned, _⟩ := (claim ℚ smallSite postgresqlServer savedCalls p run).assessments r member
  have inside : r ∈ p.db.assessments.rows := (run_kept run).assessments ▸ member
  rw [getAssessment_raises inside] at returned
  contradiction

end VMachine.VMware
