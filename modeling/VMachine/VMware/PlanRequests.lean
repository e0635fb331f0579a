import VMachine.Lib.Runs
import VMachine.VMware.ParallelAccounts
import VMachine.VMware.Plan

/-! The plan endpoints against one database. POST hands out a plan under an id of its own;
GET reads the table migration_plans, which no endpoint writes to. -/
namespace VMachine.VMware
open Py Effects OpenStack

/- A row of migration_plans. The JSON columns are plain values. -/
structure MigrationPlan where
  id : String
  assessmentId : String
  vmId : String
  priority : Int
  targetFlavorId : Option String
  targetFlavorName : Option String
  targetNetworkIds : Option Val
  targetVolumeTypes : Option Val
  estimatedDowntimeMinutes : Int
  estimatedTotalMinutes : Int
  steps : Option Val
  status : String
  notes : Option String
  createdAt : Nat
  updatedAt : Nat

structure PersistedAssessmentSummary (F : Type) where
  id : String
  vmId : String
  vmName : String
  compatible : Bool
  score : F
  assessedAt : String

structure PersistedPlanSummary where
  id : String
  vmId : String
  priority : Int
  status : String
  estimatedTotalMinutes : Int
  createdAt : String
  deriving Repr, DecidableEq

structure PersistedPlanDetail (F : Type) extends PersistedPlanSummary where
  assessmentId : String
  targetFlavorId : Option String
  targetFlavorName : Option String
  targetNetworkIds : Option Val
  targetVolumeTypes : Option Val
  estimatedDowntimeMinutes : Int
  steps : Option Val
  notes : Option String
  updatedAt : String
  assessment : Option (PersistedAssessmentSummary F)

/- What SQLAlchemy raises when a relationship that the query has not loaded is read without
awaiting. -/
def missingGreenlet : Exc :=
  .foreign "MissingGreenlet" "greenlet_spawn has not been called; can't call await_only() here."

/- The database: its rows, and in which order it returns those a query selects. -/
structure Store where
  plans : List MigrationPlan
  arrange : Nat → List MigrationPlan → List MigrationPlan

section Persistence
variable {F : Type} (site : Site) (store : Store)

def MigrationPlan.summary (r : MigrationPlan) : PersistedPlanSummary :=
  ⟨r.id, r.vmId, r.priority, r.status, r.estimatedTotalMinutes, site.isoformat r.createdAt⟩

/- `_to_plan_detail`, with what reading `record.assessment` gives. -/
def toPlanDetail (assessment : Except Exc (Option (PersistedAssessmentSummary F))) (record : MigrationPlan) :
    Except Exc (PersistedPlanDetail F) := do
  let assessment ← assessment
  return { record.summary site with
    assessmentId := record.assessmentId
    targetFlavorId := record.targetFlavorId
    targetFlavorName := record.targetFlavorName
    targetNetworkIds := record.targetNetworkIds
    targetVolumeTypes := record.targetVolumeTypes
    estimatedDowntimeMinutes := record.estimatedDowntimeMinutes
    steps := record.steps
    notes := record.notes
    updatedAt := site.isoformat record.updatedAt
    assessment := assessment }

/- `get_plan`. The id is the primary key; the query does not load the assessment. -/
def getPlan (planId : String) : Except Exc (Option (PersistedPlanDetail F)) :=
  match store.plans.find? (fun r => r.id == planId) with
  | none => .ok none
  | some record => (toPlanDetail site (.error missingGreenlet) record).map some

/- `list_plans`, in the order that the database returns the rows for the `n`-th question. -/
def listPlans (n : Nat) (assessmentId : Option String) (limit offset : Nat) : List PersistedPlanSummary :=
  let selected := match nonempty assessmentId with
    | some id => store.plans.filter (fun r => r.assessmentId == id)
    | none => store.plans
  (((store.arrange n selected).drop offset).take limit).map (MigrationPlan.summary site)

end Persistence

/- What a client is answered, with the request it is an answer to. -/
inductive PlanAnswer (F : Type) where
  | posted (plan : MigrationPlanResponse)
  | rejected (fields : List String)
  | broken (exc : Exc)
  | detail (planId : String) (detail : PersistedPlanDetail F)
  | httpException (planId : String) (statusCode : Nat) (detail : String)
  | raised (planId : String) (exc : Exc)
  | listed (assessmentId : Option String) (limit offset : Nat) (plans : List PersistedPlanSummary)

inductive PlanRequest where
  | post (vmIds : List String)
  | getPlan (planId : String)
  | listPlans (assessmentId : Option String) (limit offset : Nat)
  | elsewhere (world : World)

structure PlanProcess (F : Type) where
  world : World
  answers : List (PlanAnswer F)

section Serving
variable {F : Type} (ar : Arithmetic F) (site : Site) (store : Store)

namespace PlanProcess
variable (p : PlanProcess F)

def answer (world : World) (a : PlanAnswer F) : PlanProcess F := ⟨world, p.answers ++ [a]⟩

def post (vmIds : List String) : PlanProcess F :=
  match createMigrationPlan ar site vmIds ⟨p.world, getVmwareInventoryService, getVmwareMappingEngine⟩ with
  | .ok plan desk => p.answer desk.world (.posted plan)
  | .error exc desk => p.answer desk.world (.broken exc)

/- A query asks the database, which may not be there. -/
def query (found : Nat → PlanAnswer F) (failed : Exc → PlanAnswer F) : PlanProcess F :=
  let world := { p.world with tick := p.world.tick + 1 }
  if site.env.databaseUp p.world.tick then p.answer world (found p.world.tick)
  else p.answer world (failed databaseError)

def getPersistedPlan (planId : String) : PlanProcess F :=
  p.query site
    (fun _ => match getPlan site store planId with
      | .ok (some detail) => .detail planId detail
      | .ok none => .httpException planId 404 ("Plan '" ++ planId ++ "' not found")
      | .error exc => .raised planId exc)
    (fun exc => .raised planId exc)

def listPersistedPlans (assessmentId : Option String) (limit offset : Nat) : PlanProcess F :=
  if 1 ≤ limit ∧ limit ≤ 100 then
    p.query site (fun n => .listed assessmentId limit offset (listPlans site store n assessmentId limit offset))
      (fun exc => .broken exc)
  else p.answer p.world (.rejected ["limit"])

def step (request : PlanRequest) : Option (PlanProcess F) :=
  match request with
  | .post vmIds => some (p.post ar site vmIds)
  | .getPlan planId => some (p.getPersistedPlan site store planId)
  | .listPlans assessmentId limit offset => some (p.listPersistedPlans site store assessmentId limit offset)
  | .elsewhere world => some { p with world := world }

end PlanProcess

end Serving

/- The record shows the plan, as far as a record of one VM can. -/
def MigrationPlanResponse.ShownBy {F : Type} (plan : MigrationPlanResponse) (detail : PersistedPlanDetail F) : Prop :=
  detail.id = plan.planId ∧ ∃ vm ∈ plan.vms, detail.vmId = vm.vmId ∧ detail.priority = vm.priority ∧
    detail.targetFlavorId = vm.targetFlavorId ∧ detail.estimatedTotalMinutes = vm.estimatedTotalMinutes

/- The answer is a list of all plans: not filtered, and not cut off at either end. -/
def whole (assessmentId : Option String) (limit offset : Nat) (plans : List PersistedPlanSummary) : Prop :=
  nonempty assessmentId = none ∧ offset = 0 ∧ plans.length < limit

/- What a plan that has been handed out asks of a later answer. -/
def PlanAnswer.resolves {F : Type} (given : PlanAnswer F) (later : PlanAnswer F) : Prop :=
  ∀ plan, given = .posted plan →
    match later with
    | .detail planId shown => planId = plan.planId → plan.ShownBy shown
    | .httpException planId _ _ => planId ≠ plan.planId
    | .raised planId _ => planId ≠ plan.planId
    | .listed assessmentId limit offset plans =>
      whole assessmentId limit offset plans → ∃ listed ∈ plans, listed.id = plan.planId
    | _ => True

def PlansResolvable {F : Type} (answers : List (PlanAnswer F)) : Prop := answers.Pairwise PlanAnswer.resolves

/- The plan that a POST has handed out. -/
def PlanAnswer.handedOut {F : Type} : PlanAnswer F → Option String
  | .posted plan => some plan.planId
  | _ => none

/- The request asks neither for a plan that has been handed out nor, after one has been, for
the list of all plans. -/
def PlanUnasked {F : Type} (site : Site) (store : Store) (p : PlanProcess F) : PlanRequest → Prop
  | .getPlan planId => ∀ given ∈ p.answers, given.handedOut ≠ some planId
  | .listPlans assessmentId limit offset =>
    site.env.databaseUp p.world.tick = true → limit ≤ 100 → nonempty assessmentId = none → offset = 0 →
      store.plans.length < limit → ∀ given ∈ p.answers, given.handedOut = none
  | _ => True

instance {F : Type} (site : Site) (store : Store) (p : PlanProcess F) :
    (request : PlanRequest) → Decidable (PlanUnasked site store p request)
  | .getPlan planId => inferInstanceAs (Decidable (∀ given ∈ p.answers, given.handedOut ≠ some planId))
  | .listPlans assessmentId limit offset =>
    inferInstanceAs (Decidable (site.env.databaseUp p.world.tick = true → limit ≤ 100 →
      nonempty assessmentId = none → offset = 0 → store.plans.length < limit →
      ∀ given ∈ p.answers, given.handedOut = none))
  | .post _ => .isTrue trivial
  | .elsewhere _ => .isTrue trivial

section Reading
variable {F : Type} {ar : Arithmetic F} {site : Site} {store : Store} {p q : PlanProcess F}

/-- A plan is handed out under an id that has been drawn for it. -/
theorem createMigrationPlan_id (vmIds : List String) (desk : Desk) :
    wp (createMigrationPlan ar site vmIds) desk (fun plan _ => ∃ n, plan.planId = site.env.uuid n)
      (fun _ _ => True) := by
  have loop (w : World) : wp (candidates ar site vmIds) { desk with world := w } (fun _ _ => True) (fun _ _ => True) :=
    wp_true _ _
  refine wp_mono (createMigrationPlan_generates loop) ?_ (fun _ _ _ => trivial)
  rintro plan _ ⟨vms, n, task, generated, _, result, rfl⟩
  exact ⟨n, (generatePlan_sound result).1⟩

/- Every plan handed out has an id that was drawn. -/
def Drawn (site : Site) (p : PlanProcess F) : Prop :=
  ∀ given ∈ p.answers, ∀ planId, given.handedOut = some planId → ∃ n, planId = site.env.uuid n

theorem Drawn.answer {world : World} {a : PlanAnswer F} (drawn : Drawn site p)
    (new : ∀ planId, a.handedOut = some planId → ∃ n, planId = site.env.uuid n) : Drawn site (p.answer world a) := by
  intro given member planId handed
  cases List.mem_append.mp member with
  | inl earlier => exact drawn given earlier planId handed
  | inr last =>
    cases List.mem_singleton.mp last
    exact new planId handed

theorem Drawn.query {found : Nat → PlanAnswer F} {failed : Exc → PlanAnswer F} (drawn : Drawn site p)
    (silent : ∀ n, (found n).handedOut = none) (quiet : ∀ exc, (failed exc).handedOut = none) :
    Drawn site (p.query site found failed) := by
  unfold PlanProcess.query
  split
  · refine drawn.answer (fun planId handed => ?_)
    rw [silent] at handed
    contradiction
  · refine drawn.answer (fun planId handed => ?_)
    rw [quiet] at handed
    contradiction

/- An answer to a GET that shows no plan. -/
def PlanAnswer.misses (planId : String) (a : PlanAnswer F) : Prop :=
  a.handedOut = none ∧ ∀ given : PlanAnswer F, given.resolves a ↔ given.handedOut ≠ some planId

theorem misses_of_refused {planId : String} {a : PlanAnswer F} (nothing : a.handedOut = none)
    (refused : ∀ plan, (PlanAnswer.posted plan).resolves a ↔ planId ≠ plan.planId) : a.misses planId := by
  refine ⟨nothing, fun given => ?_⟩
  cases given with
  | posted plan => simp [refused, PlanAnswer.handedOut, eq_comm]
  | _ => simp [PlanAnswer.resolves, PlanAnswer.handedOut]

theorem httpException_misses (planId text : String) (code : Nat) :
    (PlanAnswer.httpException planId code text : PlanAnswer F).misses planId :=
  misses_of_refused rfl (by simp [PlanAnswer.resolves])

theorem raised_misses (planId : String) (exc : Exc) : (PlanAnswer.raised planId exc : PlanAnswer F).misses planId :=
  misses_of_refused rfl (by simp [PlanAnswer.resolves])

/-- No row is ever shown: there is none, or reading it raises. -/
theorem getPersistedPlan_misses (planId : String) :
    ∃ world a, p.getPersistedPlan site store planId = p.answer world a ∧ a.misses planId := by
  unfold PlanProcess.getPersistedPlan PlanProcess.query
  split
  · refine ⟨_, _, rfl, ?_⟩
    unfold getPlan
    cases store.plans.find? (fun r => r.id == planId) with
    | none => exact httpException_misses _ _ _
    | some record => exact raised_misses _ _
  · exact ⟨_, _, rfl, raised_misses _ _⟩

/-- A listing of all plans leaves out every plan that has been handed out. -/
theorem listed_resolves_iff (fresh : ∀ n, ∀ row ∈ store.plans, row.id ≠ site.env.uuid n)
    (arranged : ∀ n rows, (store.arrange n rows).Perm rows) {given : PlanAnswer F}
    (drawn : ∀ planId, given.handedOut = some planId → ∃ n, planId = site.env.uuid n) (n : Nat)
    (assessmentId : Option String) (limit offset : Nat) :
    given.resolves (.listed assessmentId limit offset (listPlans site store n assessmentId limit offset)) ↔
      (nonempty assessmentId = none → offset = 0 → store.plans.length < limit → given.handedOut = none) := by
  cases given with
  | posted plan =>
    obtain ⟨m, own⟩ := drawn plan.planId rfl
    simp only [PlanAnswer.resolves, PlanAnswer.posted.injEq, forall_eq', PlanAnswer.handedOut, reduceCtorEq]
    constructor
    · intro listed unfiltered start short
      subst start
      have all : listPlans site store n assessmentId limit 0 =
          (store.arrange n store.plans).map (MigrationPlan.summary site) := by
        have length := (arranged n store.plans).length_eq
        simp only [listPlans, unfiltered, List.drop_zero]
        rw [List.take_of_length_le (by omega)]
      have length : (listPlans site store n assessmentId limit 0).length < limit := by
        rw [all, List.length_map, (arranged n store.plans).length_eq]
        exact short
      obtain ⟨entry, member, same⟩ := listed ⟨unfiltered, rfl, length⟩
      rw [all] at member
      obtain ⟨row, stored, rfl⟩ := List.mem_map.mp member
      exact fresh m row ((arranged n store.plans).mem_iff.mp stored) (same.trans own)
    · rintro unlisted ⟨unfiltered, start, length⟩
      subst start
      refine (unlisted unfiltered rfl ?_).elim
      simp only [listPlans, unfiltered, List.drop_zero, List.length_map, List.length_take,
        (arranged n store.plans).length_eq] at length
      omega
  | _ => simp [PlanAnswer.resolves, PlanAnswer.handedOut]

theorem plans_resolvable_answer {world : World} {a : PlanAnswer F} :
    PlansResolvable (p.answer world a).answers ↔
      PlansResolvable p.answers ∧ ∀ given ∈ p.answers, given.resolves a := by
  simp [PlanProcess.answer, PlansResolvable, List.pairwise_append]

theorem post_resolvable_iff (vmIds : List String) :
    PlansResolvable (p.post ar site vmIds).answers ↔ PlansResolvable p.answers := by
  unfold PlanProcess.post
  split
  · rw [plans_resolvable_answer]
    simp [PlanAnswer.resolves]
  · rw [plans_resolvable_answer]
    simp [PlanAnswer.resolves]

theorem getPersistedPlan_resolvable_iff (planId : String) :
    PlansResolvable (p.getPersistedPlan site store planId).answers ↔
      PlansResolvable p.answers ∧ ∀ given ∈ p.answers, given.handedOut ≠ some planId := by
  obtain ⟨world, a, answered, misses⟩ := @getPersistedPlan_misses F site store p planId
  rw [answered, plans_resolvable_answer]
  simp only [misses.2]

theorem listPersistedPlans_resolvable_iff (fresh : ∀ n, ∀ row ∈ store.plans, row.id ≠ site.env.uuid n)
    (arranged : ∀ n rows, (store.arrange n rows).Perm rows) (drawn : Drawn site p)
    (assessmentId : Option String) (limit offset : Nat) :
    PlansResolvable (p.listPersistedPlans site store assessmentId limit offset).answers ↔
      PlansResolvable p.answers ∧ PlanUnasked site store p (.listPlans assessmentId limit offset) := by
  unfold PlanProcess.listPersistedPlans PlanProcess.query
  split
  · rename_i bounds
    split
    · rename_i up
      rw [plans_resolvable_answer]
      constructor
      · rintro ⟨resolvable, all⟩
        refine ⟨resolvable, fun _ _ unfiltered start short given member => ?_⟩
        exact (listed_resolves_iff fresh arranged (drawn given member) _ _ _ _).mp (all given member) unfiltered start
          short
      · rintro ⟨resolvable, unasked⟩
        refine ⟨resolvable, fun given member => ?_⟩
        refine (listed_resolves_iff fresh arranged (drawn given member) _ _ _ _).mpr ?_
        intro unfiltered start short
        exact unasked up bounds.2 unfiltered start short given member
    · rename_i down
      rw [plans_resolvable_answer]
      simp [PlanAnswer.resolves, PlanUnasked, down]
  · rename_i bounds
    rw [plans_resolvable_answer]
    constructor
    · rintro ⟨resolvable, _⟩
      refine ⟨resolvable, fun _ most _ _ short => ?_⟩
      omega
    · rintro ⟨resolvable, _⟩
      exact ⟨resolvable, fun given _ plan _ => trivial⟩

theorem step_plans_resolvable_iff (fresh : ∀ n, ∀ row ∈ store.plans, row.id ≠ site.env.uuid n)
    (arranged : ∀ n rows, (store.arrange n rows).Perm rows) (drawn : Drawn site p) {request : PlanRequest}
    (next : p.step ar site store request = some q) :
    PlansResolvable q.answers ↔ PlansResolvable p.answers ∧ PlanUnasked site store p request := by
  cases request with
  | post vmIds =>
    cases next
    rw [post_resolvable_iff]
    simp [PlanUnasked]
  | getPlan planId =>
    cases next
    exact getPersistedPlan_resolvable_iff planId
  | listPlans assessmentId limit offset =>
    cases next
    exact listPersistedPlans_resolvable_iff fresh arranged drawn assessmentId limit offset
  | elsewhere world =>
    cases next
    simp [PlanUnasked]

theorem Drawn.step (drawn : Drawn site p) {request : PlanRequest} (next : p.step ar site store request = some q) :
    Drawn site q := by
  cases request with
  | post vmIds =>
    cases next
    unfold PlanProcess.post
    split
    · rename_i plan desk ran
      refine drawn.answer (fun planId handed => ?_)
      cases handed
      exact wp_of_ok (createMigrationPlan_id vmIds _) ran
    · exact drawn.answer nofun
  | getPlan planId =>
    cases next
    obtain ⟨world, a, answered, misses⟩ := @getPersistedPlan_misses F site store p planId
    rw [answered]
    refine drawn.answer (fun planId handed => ?_)
    rw [misses.1] at handed
    contradiction
  | listPlans assessmentId limit offset =>
    cases next
    unfold PlanProcess.listPersistedPlans
    split
    · exact drawn.query (fun _ => rfl) (fun _ => rfl)
    · exact drawn.answer nofun
  | elsewhere world =>
    cases next
    exact drawn

/-- The plans that are handed out stay resolvable exactly as long as no request asks for one of
them or, after the first of them, for the list of all plans. -/
theorem plans_resolvable_iff (fresh : ∀ n, ∀ row ∈ store.plans, row.id ≠ site.env.uuid n)
    (arranged : ∀ n rows, (store.arrange n rows).Perm rows) {world : World} {requests : List PlanRequest}
    (run : Runs.exec (PlanProcess.step ar site store) ⟨world, []⟩ requests = some p) :
    PlansResolvable p.answers ↔
      Runs.Along (PlanProcess.step ar site store) (PlanUnasked site store) ⟨world, []⟩ requests := by
  have start : Drawn site (⟨world, []⟩ : PlanProcess F) := fun _ member => (List.not_mem_nil member).elim
  rw [Runs.iff_along (PlanProcess.step ar site store) (I := Drawn site) (G := fun p => PlansResolvable p.answers)
    (fun p request q drawn next => drawn.step next)
    (fun p request q drawn next => step_plans_resolvable_iff fresh arranged drawn next) start run]
  simp [PlansResolvable]

end Reading

/- A table with a plan that somebody has stored, returned as it is stored. -/
def storedPlan : MigrationPlan where
  id := "plan-1"
  assessmentId := "assessment-1"
  vmId := "vm-7"
  priority := 5
  targetFlavorId := none
  targetFlavorName := none
  targetNetworkIds := none
  targetVolumeTypes := none
  estimatedDowntimeMinutes := 10
  estimatedTotalMinutes := 21
  steps := none
  status := "pending"
  notes := none
  createdAt := 0
  updatedAt := 0

def smallStore : Store := ⟨[storedPlan], fun _ rows => rows⟩

theorem smallStore_fresh (n : Nat) : ∀ row ∈ smallStore.plans, row.id ≠ smallSite.env.uuid n := by
  intro row member same
  cases List.mem_singleton.mp member
  have letters := congrArg (fun text => text.toList.head?) same
  simp [smallSite, storedPlan] at letters

/- A plan is handed out; a request for another one and for the first page of a cut list follow. -/
def unaskedRequests : List PlanRequest := [.post ["vm-1", "vm-9"], .getPlan "plan-1", .listPlans none 1 0]

theorem plan_of_nobody_is_unasked : ∃ p : PlanProcess ℚ,
    Runs.exec (PlanProcess.step .rational smallSite smallStore) ⟨.initial, []⟩ unaskedRequests = some p ∧
    PlansResolvable p.answers := by
  have ends : (Runs.exec (PlanProcess.step .rational smallSite smallStore) ⟨.initial, []⟩ unaskedRequests).isSome =
      true := by decide +kernel
  obtain ⟨p, run⟩ := Option.isSome_iff_exists.mp ends
  have unasked : Runs.Along (PlanProcess.step .rational smallSite smallStore) (PlanUnasked smallSite smallStore)
      ⟨.initial, []⟩ unaskedRequests := by decide +kernel
  exact ⟨p, run, (plans_resolvable_iff smallStore_fresh (fun _ _ => .refl _) run).mpr unasked⟩

theorem plan_lost_after_post : ¬ ∀ (site : Site) (store : Store) (world : World) (requests : List PlanRequest)
    (p : PlanProcess ℚ), (∀ n, ∀ row ∈ store.plans, row.id ≠ site.env.uuid n) →
    (∀ n rows, (store.arrange n rows).Perm rows) →
    Runs.exec (PlanProcess.step .rational site store) ⟨world, []⟩ requests = some p → PlansResolvable p.answers := by
  intro claim
  let posted : PlanProcess ℚ := PlanProcess.post .rational smallSite ⟨.initial, []⟩ ["vm-1"]
  have handed : posted.answers.map PlanAnswer.handedOut = [some "uuid-7"] := by decide +kernel
  have run : Runs.exec (PlanProcess.step .rational smallSite smallStore) ⟨.initial, []⟩
      [.post ["vm-1"], .getPlan "uuid-7"] = some (posted.getPersistedPlan smallSite smallStore "uuid-7") :=
    (Runs.exec_cons _).mpr ⟨posted, rfl, (Runs.exec_cons _).mpr ⟨_, rfl, rfl⟩⟩
  have resolvable := claim _ _ _ _ _ smallStore_fresh (fun _ _ => .refl _) run
  have unasked := (getPersistedPlan_resolvable_iff "uuid-7").mp resolvable
  have member : some "uuid-7" ∈ posted.answers.map PlanAnswer.handedOut := by rw [handed]; simp
  obtain ⟨given, answered, same⟩ := List.mem_map.mp member
  exact unasked.2 given answered same

end VMachine.VMware
