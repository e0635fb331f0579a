import VMachine.Lib.Pages
import VMachine.VMware.Persistence

/-! The lists of saved assessments and plans, page by page. Each page is a query of its own,
ordered by a time only; rows of one time come in whichever order the database finds them. -/
namespace VMachine.VMware
open Py OpenStack Database Tables

section Listing
variable {F : Type} (site : Site) {server : Server} (db : Persisted F server)

/- What `list_assessments` selects. -/
def selectedAssessments (compatibleOnly : Option Bool) : List (MigrationAssessment F) :=
  match compatibleOnly with
  | none => db.assessments.rows
  | some wanted => db.assessments.rows.filter (fun r => r.compatible == wanted)

/- `list_assessments`, in the order in which the database returns the rows for the `n`-th question. -/
def listAssessments (arrange : Nat → List (MigrationAssessment F) → List (MigrationAssessment F)) (n : Nat)
    (compatibleOnly : Option Bool) (limit offset : Nat) : List (PersistedAssessmentSummary F) :=
  (((arrange n (selectedAssessments db compatibleOnly)).drop offset).take limit).map (MigrationAssessment.summary site)

/- What `list_plans` selects. An empty id is none. -/
def selectedPlans (assessmentId : Option String) : List MigrationPlan :=
  match nonempty assessmentId with
  | none => db.plans.rows
  | some id => db.plans.rows.filter (fun r => r.assessmentId == id)

/- One page after the other, with no writes between the requests. -/
def assessmentPages (arrange : Nat → List (MigrationAssessment F) → List (MigrationAssessment F))
    (compatibleOnly : Option Bool) (limit count : Nat) : List (PersistedAssessmentSummary F) :=
  (List.range count).flatMap (fun k => listAssessments site db arrange k compatibleOnly limit (k * limit))

def planPages (arrange : Nat → List MigrationPlan → List MigrationPlan) (assessmentId : Option String)
    (limit count : Nat) : List PersistedPlanSummary :=
  (List.range count).flatMap (fun k => listPlans site ⟨db.plans.rows, arrange⟩ k assessmentId limit (k * limit))

/- However the database orders the rows of one time, the pages list each selected row once. -/
def AssessmentsPartitioned (compatibleOnly : Option Bool) (limit : Nat) : Prop :=
  ∀ arrange, Pages.Arranges MigrationAssessment.assessedAt arrange →
    ∀ count, (selectedAssessments db compatibleOnly).length ≤ count * limit →
      (assessmentPages site db arrange compatibleOnly limit count).Perm
        ((selectedAssessments db compatibleOnly).map (MigrationAssessment.summary site))

def PlansPartitioned (assessmentId : Option String) (limit : Nat) : Prop :=
  ∀ arrange, Pages.Arranges MigrationPlan.createdAt arrange →
    ∀ count, (selectedPlans db assessmentId).length ≤ count * limit →
      (planPages site db arrange assessmentId limit count).Perm
        ((selectedPlans db assessmentId).map (MigrationPlan.summary site))

end Listing

section Partition
variable {F : Type} (site : Site) {server : Server} (db : Persisted F server) {limit : Nat}

theorem selectedAssessments_sublist (compatibleOnly : Option Bool) :
    (selectedAssessments db compatibleOnly).Sublist db.assessments.rows := by
  cases compatibleOnly with
  | none => exact .refl _
  | some wanted => exact List.filter_sublist

theorem selectedPlans_sublist (assessmentId : Option String) :
    (selectedPlans db assessmentId).Sublist db.plans.rows := by
  unfold selectedPlans
  split
  · exact .refl _
  · exact List.filter_sublist

/-- The id is part of a summary, so no two rows look alike. -/
theorem assessment_summaries_distinct (compatibleOnly : Option Bool) :
    ((selectedAssessments db compatibleOnly).map (MigrationAssessment.summary site)).Nodup := by
  apply List.Nodup.of_map PersistedAssessmentSummary.id
  rw [List.map_map]
  exact db.assessments.unique.sublist ((selectedAssessments_sublist db compatibleOnly).map MigrationAssessment.id)

theorem plan_summaries_distinct (assessmentId : Option String) :
    ((selectedPlans db assessmentId).map (MigrationPlan.summary site)).Nodup := by
  apply List.Nodup.of_map PersistedPlanSummary.id
  rw [List.map_map]
  exact db.plans.unique.sublist ((selectedPlans_sublist db assessmentId).map MigrationPlan.id)

theorem assessments_partitioned_iff (positive : 0 < limit) (compatibleOnly : Option Bool) :
    AssessmentsPartitioned site db compatibleOnly limit ↔
      Pages.Unbroken MigrationAssessment.assessedAt limit (selectedAssessments db compatibleOnly) :=
  Pages.listing_iff positive (assessment_summaries_distinct site db compatibleOnly)

theorem plans_partitioned_iff (positive : 0 < limit) (assessmentId : Option String) :
    PlansPartitioned site db assessmentId limit ↔
      Pages.Unbroken MigrationPlan.createdAt limit (selectedPlans db assessmentId) := by
  have listed (arrange : Nat → List MigrationPlan → List MigrationPlan) (n offset : Nat) :
      listPlans site ⟨db.plans.rows, arrange⟩ n assessmentId limit offset =
        (Pages.page limit offset (arrange n (selectedPlans db assessmentId))).map (MigrationPlan.summary site) := by
    unfold listPlans selectedPlans Pages.page
    cases nonempty assessmentId <;> rfl
  rw [← Pages.listing_iff positive (plan_summaries_distinct site db assessmentId)]
  simp only [PlansPartitioned, planPages, listed]

/-- The pages list each selected row once, whichever way ties are broken, exactly if rows of one
time fall on one page. -/
theorem pages_partition_iff (positive : 0 < limit) :
    (∀ compatibleOnly, AssessmentsPartitioned site db compatibleOnly limit ↔
      Pages.Unbroken MigrationAssessment.assessedAt limit (selectedAssessments db compatibleOnly)) ∧
    (∀ assessmentId, PlansPartitioned site db assessmentId limit ↔
      Pages.Unbroken MigrationPlan.createdAt limit (selectedPlans db assessmentId)) :=
  ⟨assessments_partitioned_iff site db positive, plans_partitioned_iff site db positive⟩

end Partition

/- Two assessments, saved at the given times. -/
def savedAt (first second : Nat) : List (PersistenceCall ℚ) :=
  [.saveAssessment { vmId := "vm-1", vmName := "web", compatible := true, compatibilityScore := 1, mappingScore := 0 }
      "assessment-1" 0 first,
    .saveAssessment { vmId := "vm-2", vmName := "db", compatible := true, compatibilityScore := 1, mappingScore := 0 }
      "assessment-2" 0 second]

theorem apart_in_time_partitioned : ∃ p : Persistence ℚ postgresqlServer,
    Runs.exec persistenceStep (.initial ℚ postgresqlServer) (savedAt 0 1) = some p ∧
      AssessmentsPartitioned smallSite p.db none 1 := by
  have ends : (Runs.exec persistenceStep (.initial ℚ postgresqlServer) (savedAt 0 1)).map (fun p =>
      decide (Pages.Unbroken MigrationAssessment.assessedAt 1 (selectedAssessments p.db none))) = some true := by
    decide +kernel
  obtain ⟨p, run, unbroken⟩ := Option.map_eq_some_iff.mp ends
  have one : 0 < 1 := by decide
  exact ⟨p, run, ((pages_partition_iff smallSite p.db one).1 none).mpr (of_decide_eq_true unbroken)⟩

/- The property asked of both lists, for every content of the tables. -/
def PagesPartition : Prop :=
  ∀ (F : Type) (site : Site) (server : Server) (db : Persisted F server) (limit : Nat), 0 < limit →
    (∀ compatibleOnly, AssessmentsPartitioned site db compatibleOnly limit) ∧
      ∀ assessmentId, PlansPartitioned site db assessmentId limit

theorem saved_together_repeated : ¬ PagesPartition := by
  intro claim
  have ends : (Runs.exec persistenceStep (.initial ℚ postgresqlServer) (savedAt 0 0)).map (fun p =>
      decide (Pages.Unbroken MigrationAssessment.assessedAt 1 (selectedAssessments p.db none))) = some false := by
    decide +kernel
  obtain ⟨p, _, broken⟩ := Option.map_eq_some_iff.mp ends
  have one : 0 < 1 := by decide
  have partitioned := (claim ℚ smallSite postgresqlServer p.db 1 one).1 none
  exact of_decide_eq_false broken ((assessments_partitioned_iff smallSite p.db one none).mp partitioned)

end VMachine.VMware
