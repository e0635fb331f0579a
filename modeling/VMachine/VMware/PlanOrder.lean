import VMachine.Lib.StableSort
import VMachine.VMware.Flavors
import VMachine.VMware.Plan

/-! `generate_plan` filters, builds and sorts. The plan is the stable sort of the entries of
the compatible VMs by priority and name; a priority out of range raises instead. -/
namespace VMachine.VMware
open Py

/- The key of the sort, compared as a tuple. -/
def MigrationPlanVM.key (entry : MigrationPlanVM) : Int ×ₗ String := toLex (entry.priority, entry.vmName)

section Candidates
variable {F : Type}

def Candidate.priority (overrides : List (String × Int)) (c : Candidate F) : Int := (overrides.lookup c.vm.id).getD 5

def compatibles (candidates : List (Candidate F)) : List (Candidate F) :=
  candidates.filter (fun c => c.compatibility.compatible)

/- Every compatible VM has a priority from 1 to 10. -/
def Prioritised (overrides : List (String × Int)) (candidates : List (Candidate F)) : Prop :=
  ∀ c ∈ candidates, c.compatibility.compatible = true → 1 ≤ c.priority overrides ∧ c.priority overrides ≤ 10

/- The plan of the entries that are built from the compatible candidates, in their order. -/
structure Planned (lower : String → String) (overrides : List (String × Int)) (candidates : List (Candidate F))
    (entries : List MigrationPlanVM) (plan : MigrationPlanResponse) : Prop where
  built : List.Forall₂ (fun c entry => planVm lower overrides c.vm c.mapping = .ok entry) (compatibles candidates) entries
  sorted : ∀ vms, StableSort.Sorts MigrationPlanVM.key entries vms ↔ vms = plan.vms
  total : plan.totalVms = entries.length
  minutes : plan.totalEstimatedMinutes =
    (entries.map (fun entry => (entry.steps.map MigrationStep.estimatedMinutes).sum)).sum

end Candidates

section Planning
variable {F : Type} {lower : String → String} {overrides : List (String × Int)} {candidates : List (Candidate F)}

theorem precedes_iff (a b : MigrationPlanVM) : a.precedes b = true ↔ a.key ≤ b.key := by
  rw [MigrationPlanVM.precedes, decide_eq_true_iff, MigrationPlanVM.key, MigrationPlanVM.key, Prod.Lex.toLex_le_toLex,
    not_lt]

/-- An entry is built exactly if the priority is in range. -/
theorem planVm_cases (lower : String → String) (overrides : List (String × Int)) (c : Candidate F) :
    ((1 ≤ c.priority overrides ∧ c.priority overrides ≤ 10) ∧ ∃ entry, planVm lower overrides c.vm c.mapping = .ok entry) ∨
    (¬ (1 ≤ c.priority overrides ∧ c.priority overrides ≤ 10) ∧
      planVm lower overrides c.vm c.mapping = .error (.validationError "MigrationPlanVM" ["priority"])) := by
  unfold planVm
  by_cases range : 1 ≤ c.priority overrides ∧ c.priority overrides ≤ 10
  · exact .inl ⟨range, _, if_pos range⟩
  · exact .inr ⟨range, if_neg range⟩

theorem planVm_minutes {vm : VMSummary} {mapping : Option (VMMappingResult F)} {entry : MigrationPlanVM}
    (planned : planVm lower overrides vm mapping = .ok entry) :
    entry.estimatedTotalMinutes = (entry.steps.map MigrationStep.estimatedMinutes).sum := by
  unfold planVm at planned
  simp only at planned
  split at planned
  · cases planned
    rfl
  · contradiction

theorem planVms_eq : planVms lower candidates overrides = (do
    let vms ← (compatibles candidates).mapM (fun c => planVm lower overrides c.vm c.mapping)
    return vms.insertionSort (fun a b => a.precedes b = true)) := rfl

/-- Where the entries are built, they are sorted and summed up. -/
theorem generatePlan_built {planId createdAt : String} {entries : List MigrationPlanVM}
    (built : (compatibles candidates).mapM (fun c => planVm lower overrides c.vm c.mapping) = .ok entries) :
    ∃ plan, generatePlan lower planId createdAt candidates overrides = .ok plan ∧
      Planned lower overrides candidates entries plan := by
  have sorts := StableSort.insertionSort_sorts precedes_iff entries
  have each := forall₂_of_mapM_ok built
  have minutes : ∀ entry ∈ entries,
      entry.estimatedTotalMinutes = (entry.steps.map MigrationStep.estimatedMinutes).sum := by
    intro entry member
    obtain ⟨c, _, planned⟩ := mem_of_mapM_ok built member
    exact planVm_minutes planned
  have generated : generatePlan lower planId createdAt candidates overrides = .ok {
      planId := planId
      vms := entries.insertionSort (fun a b => a.precedes b = true)
      totalVms := (entries.insertionSort (fun a b => a.precedes b = true)).length
      totalEstimatedMinutes :=
        ((entries.insertionSort (fun a b => a.precedes b = true)).map MigrationPlanVM.estimatedTotalMinutes).sum
      createdAt := createdAt } := by
    rw [generatePlan, planVms_eq, built]
    rfl
  refine ⟨_, generated, each, fun vms => ?_, ?_, ?_⟩
  · constructor
    · exact fun other => other.unique sorts
    · rintro rfl
      exact sorts
  · exact sorts.perm.length_eq
  · calc
      _ = (entries.map MigrationPlanVM.estimatedTotalMinutes).sum := (sorts.perm.map _).sum_eq
      _ = _ := by rw [List.map_congr_left minutes]

/-- A plan is the stable sort of its entries by priority and name if every compatible VM has a
priority in range, and is not made otherwise. -/
theorem plan_is_stable_sort (lower : String → String) (planId createdAt : String) (candidates : List (Candidate F))
    (overrides : List (String × Int)) :
    (Prioritised overrides candidates → ∃ entries plan,
      generatePlan lower planId createdAt candidates overrides = .ok plan ∧
        Planned lower overrides candidates entries plan) ∧
    (¬ Prioritised overrides candidates → generatePlan lower planId createdAt candidates overrides =
      .error (.validationError "MigrationPlanVM" ["priority"])) := by
  constructor
  · intro prioritised
    have each : ∀ c ∈ compatibles candidates, ∃ entry, planVm lower overrides c.vm c.mapping = .ok entry := by
      intro c member
      obtain ⟨inside, compatible⟩ := List.mem_filter.mp member
      obtain ⟨_, built⟩ | ⟨out, _⟩ := planVm_cases lower overrides c
      · exact built
      · exact absurd (prioritised c inside compatible) out
    obtain ⟨entries, built⟩ := exists_mapM_ok each
    exact ⟨entries, generatePlan_built built⟩
  · intro out
    unfold Prioritised at out
    push Not at out
    obtain ⟨c, inside, compatible, out⟩ := out
    have raises : planVm lower overrides c.vm c.mapping = .error (.validationError "MigrationPlanVM" ["priority"]) := by
      obtain ⟨range, _⟩ | ⟨_, raises⟩ := planVm_cases lower overrides c
      · exact absurd range.2 (not_le_of_gt (out range.1))
      · exact raises
    have only : ∀ (c : Candidate F) exc, planVm lower overrides c.vm c.mapping = .error exc →
        exc = .validationError "MigrationPlanVM" ["priority"] := by
      intro c exc failed
      obtain ⟨_, entry, built⟩ | ⟨_, raises⟩ := planVm_cases lower overrides c
      · rw [built] at failed
        contradiction
      · exact (Except.error.inj (raises.symm.trans failed)).symm
    have member : c ∈ compatibles candidates := List.mem_filter.mpr ⟨inside, compatible⟩
    rw [generatePlan, planVms_eq, mapM_error only member raises]
    rfl

end Planning

/- A VM that is compatible or not, and whose resources are not mapped. -/
def unmapped (name : String) (compatible : Bool) : Candidate ℚ :=
  ⟨{ sizedVm 2 4096 40 with id := name, name := name }, ⟨name, name, compatible, 1, [], ""⟩, none⟩

def fourVms : List (Candidate ℚ) := [unmapped "web" true, unmapped "old" false, unmapped "app" true, unmapped "db" true]

/-- The database comes first since it is urgent, and the other two by their names. -/
theorem database_planned_first : ∃ entries plan,
    generatePlan id "plan-1" "2026-05-11T08:00:00+00:00" fourVms [("db", 1)] = .ok plan ∧
      plan.vms.map MigrationPlanVM.vmName = ["db", "app", "web"] ∧ Planned id [("db", 1)] fourVms entries plan := by
  have prioritised : Prioritised [("db", 1)] fourVms := by
    unfold Prioritised
    decide +kernel
  obtain ⟨entries, plan, generated, planned⟩ :=
    (plan_is_stable_sort id "plan-1" "2026-05-11T08:00:00+00:00" fourVms [("db", 1)]).1 prioritised
  have order : (generatePlan id "plan-1" "2026-05-11T08:00:00+00:00" fourVms [("db", 1)]).toOption.map
      (fun plan => plan.vms.map MigrationPlanVM.vmName) = some ["db", "app", "web"] := by decide +kernel
  rw [generated] at order
  exact ⟨entries, plan, generated, Option.some.inj order, planned⟩

section PowerStates
variable {F : Type} {lower : String → String} {overrides : List (String × Int)} {candidates : List (Candidate F)}

/- The key of the entry that is built from a candidate. -/
def Candidate.key (overrides : List (String × Int)) (c : Candidate F) : Int ×ₗ String :=
  toLex (c.priority overrides, c.vm.name)

/- The candidates in the order of the plan. -/
def planOrder (overrides : List (String × Int)) (candidates : List (Candidate F)) : List (Candidate F) :=
  (compatibles candidates).insertionSort (fun a b => a.key overrides ≤ b.key overrides)

theorem planVm_key {c : Candidate F} {entry : MigrationPlanVM}
    (planned : planVm lower overrides c.vm c.mapping = .ok entry) : entry.key = c.key overrides := by
  unfold planVm at planned
  simp only at planned
  split at planned
  · cases planned
    rfl
  · contradiction

/-- Each entry of a plan is built from the candidate at its place. -/
theorem planOrder_built {planId createdAt : String} {plan : MigrationPlanResponse}
    (generated : generatePlan lower planId createdAt candidates overrides = .ok plan) :
    List.Forall₂ (fun c entry => planVm lower overrides c.vm c.mapping = .ok entry)
      (planOrder overrides candidates) plan.vms := by
  have sorted := (generatePlan_sound generated).2.1
  rw [planVms_eq] at sorted
  cases built : (compatibles candidates).mapM (fun c => planVm lower overrides c.vm c.mapping) with
  | error exc => simp [built, bind, Except.bind] at sorted
  | ok entries =>
    simp only [built, bind, Except.bind, pure, Except.pure, Except.ok.injEq] at sorted
    rw [← sorted]
    refine StableSort.insertionSort_forall₂ ?_ (forall₂_of_mapM_ok built)
    intro a a' b b' first second
    rw [precedes_iff, planVm_key first, planVm_key second]

def Candidate.poweredOn (c : Candidate F) : Bool := decide (c.vm.powerState = "poweredOn")

/- Among the entries of a priority, a VM that is powered on is never after one that is not. -/
def PoweredOnFirst (overrides : List (String × Int)) (candidates : List (Candidate F)) : Prop :=
  (planOrder overrides candidates).Pairwise
    (fun a b => a.priority overrides = b.priority overrides → b.poweredOn → a.poweredOn)

theorem planOrder_sorts (overrides : List (String × Int)) (candidates : List (Candidate F)) :
    StableSort.Sorts (Candidate.key overrides) (compatibles candidates) (planOrder overrides candidates) :=
  StableSort.insertionSort_sorts (fun _ _ => Iff.rfl) _

/-- Powered-on VMs come first exactly if their names do: of two compatible VMs of one priority, the
one with the lesser name is powered on if the other is, and so is, of two with one name, the one
that was given first. -/
theorem powered_on_first_iff {planId createdAt : String} {plan : MigrationPlanResponse}
    (generated : generatePlan lower planId createdAt candidates overrides = .ok plan) :
    List.Forall₂ (fun c entry => planVm lower overrides c.vm c.mapping = .ok entry)
      (planOrder overrides candidates) plan.vms ∧
    (PoweredOnFirst overrides candidates ↔
      (∀ a ∈ compatibles candidates, ∀ b ∈ compatibles candidates, a.priority overrides = b.priority overrides →
        a.vm.name < b.vm.name → b.poweredOn → a.poweredOn) ∧
      (compatibles candidates).Pairwise (fun a b => a.priority overrides = b.priority overrides →
        a.vm.name = b.vm.name → b.poweredOn → a.poweredOn)) := by
  refine ⟨planOrder_built generated, ?_⟩
  rw [PoweredOnFirst, (planOrder_sorts overrides candidates).pairwise_iff]
  apply and_congr
  · constructor
    · intro between a first b second same less
      exact between a first b second (Prod.Lex.toLex_lt_toLex.mpr (.inr ⟨same, less⟩)) same
    · intro between a first b second less same
      rcases Prod.Lex.toLex_lt_toLex.mp less with lower | ⟨_, named⟩
      · exact absurd same (ne_of_lt lower)
      · exact between a first b second same named
  · constructor
    · intro within
      refine within.imp (fun {a b} related same named => related ?_ same)
      exact congrArg toLex (Prod.ext same named)
    · intro within
      refine within.imp (fun {a b} related keys same => related same ?_)
      exact congrArg (fun key => (ofLex key).2) keys

end PowerStates

/- A compatible VM of the given name and power state. -/
def machineIn (name powerState : String) : Candidate ℚ :=
  ⟨{ sizedVm 2 4096 40 with id := name, name := name, powerState := powerState }, ⟨name, name, true, 1, [], ""⟩, none⟩

theorem alphabet_powered_on_first : ∃ plan,
    generatePlan id "plan-1" "2026-05-11T08:00:00+00:00" [machineIn "app" "poweredOn", machineIn "web" "poweredOff"] [] =
      .ok plan ∧
    PoweredOnFirst [] [machineIn "app" "poweredOn", machineIn "web" "poweredOff"] := by
  refine ⟨_, rfl, ?_⟩
  have iff := (@powered_on_first_iff ℚ id [] [machineIn "app" "poweredOn", machineIn "web" "poweredOff"] "plan-1"
    "2026-05-11T08:00:00+00:00" _ rfl).2
  exact iff.mpr (by decide)

/- The VM that is powered off has the lesser name. -/
theorem powered_off_first : ¬ ∀ (lower : String → String) (planId createdAt : String) (candidates : List (Candidate ℚ))
    (overrides : List (String × Int)) (plan : MigrationPlanResponse),
    generatePlan lower planId createdAt candidates overrides = .ok plan → PoweredOnFirst overrides candidates := by
  intro claim
  have first := claim id "plan-1" "2026-05-11T08:00:00+00:00" [machineIn "app" "poweredOff", machineIn "web" "poweredOn"]
    [] _ rfl
  have related := ((planOrder_sorts [] _).pairwise_iff.mp first).1 (machineIn "app" "poweredOff") (by simp [compatibles, machineIn])
    (machineIn "web" "poweredOn") (by simp [compatibles, machineIn])
    (Prod.Lex.toLex_lt_toLex.mpr (.inr ⟨rfl, by decide⟩)) rfl rfl
  exact absurd related (by decide)

end VMachine.VMware
