import VMachine.VMware.Agreement
import VMachine.VMware.Plan

/-! Which VMs enter a plan. Over an inventory and catalogs that do not change, the plan has
one entry for each requested id whose VM is there and compatible. An id that is requested
twice has two. -/
namespace VMachine.VMware
open Py Effects OpenStack

/- What the steps of the VM take. -/
def Candidate.minutes {F : Type} (c : Candidate F) : Nat :=
  ((buildSteps c.vm c.mapping).map MigrationStep.estimatedMinutes).sum

section Reading
variable {F : Type} (ar : Arithmetic F) (lower : String → String) (cat : Catalogs)

def Catalogs.candidate (vmId : String) : Except Exc (Option (Candidate F)) := do
  match ← cat.vm lower vmId with
  | none => return none
  | some vm =>
    let mapping ← cat.mapping ar lower vm
    return some ⟨vm, evaluate ar lower vm, some mapping⟩

def Catalogs.candidates : List String → Except Exc (List (Candidate F))
  | [] => return []
  | vmId :: vmIds => do
    let first ← cat.candidate ar lower vmId
    let rest ← Catalogs.candidates vmIds
    return first.toList ++ rest

/- The VM is in the inventory, and `evaluate` marks it compatible. -/
def Catalogs.qualifies (vmId : String) : Bool :=
  match cat.vm lower vmId with
  | .ok (some vm) => (evaluate ar lower vm).compatible
  | _ => false

def Catalogs.minutes (vmId : String) : Nat :=
  match cat.candidate ar lower vmId with
  | .ok (some c) => c.minutes
  | _ => 0

end Reading

/- The plan has just the right VMs, each of them once. -/
structure Selects {F : Type} (ar : Arithmetic F) (lower : String → String) (cat : Catalogs) (vmIds : List String)
    (plan : MigrationPlanResponse) : Prop where
  once : ∀ vmId, (plan.vms.map MigrationPlanVM.vmId).count vmId =
    if vmId ∈ vmIds ∧ cat.qualifies ar lower vmId = true then 1 else 0
  migratable : ∀ entry ∈ plan.vms, ∃ vm, cat.vm lower entry.vmId = .ok (some vm) ∧ Migratable lower vm
  minutes : plan.totalEstimatedMinutes =
    ((vmIds.filter (cat.qualifies ar lower)).dedup.map (cat.minutes ar lower)).sum

section Selecting
variable {F : Type} {ar : Arithmetic F} {site : Site} {cat : Catalogs} {lower : String → String}

theorem candidate_computes (steady : Steady site cat) (vmId : String) :
    Computes (Coherent site cat) (candidate ar site vmId) (cat.candidate ar site.lower vmId) := by
  refine computes_bind (getVm_computes steady vmId) (fun found _ => ?_)
  cases found with
  | none => exact computes_pure none
  | some vm => exact computes_bind (mapVm_computes steady vm) (fun _ _ => computes_pure _)

/-- The loop over the ids computes what the catalogs say of them. -/
theorem candidates_computes (steady : Steady site cat) (vmIds : List String) :
    Computes (Coherent site cat) (candidates ar site vmIds) (cat.candidates ar site.lower vmIds) := by
  induction vmIds with
  | nil => exact computes_pure []
  | cons vmId vmIds ih =>
    exact computes_bind (candidate_computes steady vmId) (fun _ _ => computes_bind ih (fun _ _ => computes_pure _))

/- An entry, as far as it decides who is scheduled and for how long. -/
def MigrationPlanVM.claim (entry : MigrationPlanVM) : String × Nat := (entry.vmId, entry.estimatedTotalMinutes)

theorem planVm_claim {overrides : List (String × Int)} {vm : VMSummary} {mapping : Option (VMMappingResult F)}
    {entry : MigrationPlanVM} (planned : planVm lower overrides vm mapping = .ok entry) :
    entry.claim = (vm.id, ((buildSteps vm mapping).map MigrationStep.estimatedMinutes).sum) := by
  unfold planVm at planned
  simp only at planned
  split at planned
  · cases planned
    rfl
  · contradiction

/-- A plan has an entry for each candidate that is compatible. -/
theorem generatePlan_claims {planId createdAt : String} {found : List (Candidate F)}
    {overrides : List (String × Int)} {plan : MigrationPlanResponse}
    (generated : generatePlan lower planId createdAt found overrides = .ok plan) :
    (plan.vms.map MigrationPlanVM.claim).Perm
      ((found.filter (fun c => c.compatibility.compatible)).map (fun c => (c.vm.id, c.minutes))) ∧
    plan.totalEstimatedMinutes = (plan.vms.map MigrationPlanVM.estimatedTotalMinutes).sum := by
  obtain ⟨_, sorted, total⟩ := generatePlan_sound generated
  refine ⟨?_, total⟩
  unfold planVms at sorted
  simp only [bind, Except.bind] at sorted
  cases entries : (found.filter (fun c => c.compatibility.compatible)).mapM
      (fun c => planVm lower overrides c.vm c.mapping) with
  | error exc => simp [entries] at sorted
  | ok vms =>
    simp only [entries, pure, Except.pure, Except.ok.injEq] at sorted
    have claims := map_of_mapM_ok (g := MigrationPlanVM.claim) (h := fun c => (c.vm.id, c.minutes)) entries
      (fun c entry planned => planVm_claim planned)
    rw [← sorted, ← claims]
    exact (List.perm_insertionSort _ vms).map _

theorem vm_own {vmId : String} {vm : VMSummary} (found : cat.vm lower vmId = .ok (some vm)) : vm.id = vmId := by
  unfold Catalogs.vm at found
  cases all : cat.vms lower with
  | error exc => simp [all, bind, Except.bind] at found
  | ok vms =>
    simp only [all, bind, Except.bind, pure, Except.pure, Except.ok.injEq] at found
    simpa using List.find?_some found

/-- What an id adds to the VMs that are planned. -/
theorem candidate_claims {vmId : String} {found : Option (Candidate F)}
    (read : cat.candidate ar lower vmId = .ok found) :
    ((found.toList.filter (fun c => c.compatibility.compatible)).map (fun c => (c.vm.id, c.minutes))) =
      ([vmId].filter (cat.qualifies ar lower)).map (fun vmId => (vmId, cat.minutes ar lower vmId)) := by
  have own := read
  unfold Catalogs.candidate at read
  cases there : cat.vm lower vmId with
  | error exc => simp [there, bind, Except.bind] at read
  | ok vm =>
    cases vm with
    | none =>
      simp only [there, bind, Except.bind, pure, Except.pure, Except.ok.injEq] at read
      subst read
      simp [Catalogs.qualifies, there]
    | some vm =>
      cases mapped : cat.mapping ar lower vm with
      | error exc => simp [there, mapped, bind, Except.bind] at read
      | ok mapping =>
        simp only [there, mapped, bind, Except.bind, pure, Except.pure, Except.ok.injEq] at read
        subst read
        have qualifies : cat.qualifies ar lower vmId = (evaluate ar lower vm).compatible := by
          simp only [Catalogs.qualifies, there]
        have minutes : cat.minutes ar lower vmId = (⟨vm, evaluate ar lower vm, some mapping⟩ : Candidate F).minutes := by
          simp only [Catalogs.minutes, own]
        cases compatible : (evaluate ar lower vm).compatible with
        | false => simp [qualifies, compatible]
        | true => simp [qualifies, compatible, minutes, vm_own there]

theorem candidates_claims {vmIds : List String} {found : List (Candidate F)}
    (read : cat.candidates ar lower vmIds = .ok found) :
    (found.filter (fun c => c.compatibility.compatible)).map (fun c => (c.vm.id, c.minutes)) =
      (vmIds.filter (cat.qualifies ar lower)).map (fun vmId => (vmId, cat.minutes ar lower vmId)) := by
  induction vmIds generalizing found with
  | nil =>
    cases read
    rfl
  | cons vmId vmIds ih =>
    rw [Catalogs.candidates] at read
    cases first : cat.candidate ar lower vmId with
    | error exc => simp [first, bind, Except.bind] at read
    | ok one =>
      cases rest : cat.candidates ar lower vmIds with
      | error exc => simp [first, rest, bind, Except.bind] at read
      | ok others =>
        simp only [first, rest, bind, Except.bind, pure, Except.pure, Except.ok.injEq] at read
        subst read
        rw [List.filter_append, List.map_append, candidate_claims first, ih rest, ← List.map_append,
          ← List.filter_append]
        rfl

/-- The entries of a plan are the requested ids that qualify, as often as they are requested. -/
theorem createMigrationPlan_claims (steady : Steady site cat) {world : World} {vmIds : List String}
    {plan : MigrationPlanResponse} {desk : Desk}
    (returned : createMigrationPlan ar site vmIds ⟨world, getVmwareInventoryService, getVmwareMappingEngine⟩ =
      .ok plan desk) :
    (plan.vms.map MigrationPlanVM.claim).Perm ((vmIds.filter (cat.qualifies ar site.lower)).map
      (fun vmId => (vmId, cat.minutes ar site.lower vmId))) ∧
    plan.totalEstimatedMinutes = (plan.vms.map MigrationPlanVM.estimatedTotalMinutes).sum := by
  have loop (w : World) : wp (candidates ar site vmIds) ⟨w, getVmwareInventoryService, getVmwareMappingEngine⟩
      (fun found _ => cat.candidates ar site.lower vmIds = .ok found) (fun _ _ => True) :=
    wp_mono (candidates_computes steady vmIds _ (coherent_fresh w)) (fun _ _ computed => computed.1)
      (fun _ _ _ => trivial)
  obtain ⟨found, n, task, generated, value, result, rfl⟩ := wp_of_ok (createMigrationPlan_generates loop) returned
  have claims := generatePlan_claims result
  rw [candidates_claims value] at claims
  exact claims

/-- The ids of a plan. -/
theorem createMigrationPlan_ids (steady : Steady site cat) {world : World} {vmIds : List String}
    {plan : MigrationPlanResponse} {desk : Desk}
    (returned : createMigrationPlan ar site vmIds ⟨world, getVmwareInventoryService, getVmwareMappingEngine⟩ =
      .ok plan desk) :
    (plan.vms.map MigrationPlanVM.vmId).Perm (vmIds.filter (cat.qualifies ar site.lower)) := by
  simpa [Function.comp_def, MigrationPlanVM.claim] using (createMigrationPlan_claims steady returned).1.map Prod.fst

/-- The plan has just the right VMs, each of them once, exactly when no id that qualifies is
requested twice. -/
theorem plan_selects_iff (steady : Steady site cat) {world : World} {vmIds : List String}
    {plan : MigrationPlanResponse} {desk : Desk}
    (returned : createMigrationPlan ar site vmIds ⟨world, getVmwareInventoryService, getVmwareMappingEngine⟩ =
      .ok plan desk) :
    Selects ar site.lower cat vmIds plan ↔ (vmIds.filter (cat.qualifies ar site.lower)).Nodup := by
  obtain ⟨claims, total⟩ := createMigrationPlan_claims steady returned
  have ids := createMigrationPlan_ids steady returned
  have minutes : (plan.vms.map MigrationPlanVM.estimatedTotalMinutes).Perm
      ((vmIds.filter (cat.qualifies ar site.lower)).map (cat.minutes ar site.lower)) := by
    simpa [Function.comp_def, MigrationPlanVM.claim] using claims.map Prod.snd
  constructor
  · intro selects
    rw [← ids.nodup_iff, List.nodup_iff_count_le_one]
    intro vmId
    rw [selects.once]
    split
    · exact Nat.le_refl 1
    · exact Nat.zero_le 1
  · intro distinct
    refine ⟨fun vmId => ?_, fun entry member => ?_, ?_⟩
    · rw [ids.count_eq, distinct.count]
      simp only [List.mem_filter]
    · have planned := (ids.mem_iff).mp (List.mem_map_of_mem member)
      have qualifies := (List.mem_filter.mp planned).2
      unfold Catalogs.qualifies at qualifies
      split at qualifies
      · rename_i vm there
        exact ⟨vm, there, migratable_of_compatible qualifies⟩
      · contradiction
    · rw [total, minutes.sum_eq, distinct.dedup]

end Selecting

def smallCatalogs : Catalogs := ⟨[webMachine], siteFlavors, siteNetworks⟩

/- The services of a first request. -/
def firstDesk : Desk := ⟨.initial, getVmwareInventoryService, getVmwareMappingEngine⟩

theorem one_of_two_ids_selected : ∃ plan desk,
    createMigrationPlan .rational smallSite ["vm-1", "vm-9"] firstDesk = .ok plan desk ∧
    Selects .rational id smallCatalogs ["vm-1", "vm-9"] plan := by
  have answers : returns (createMigrationPlan .rational smallSite ["vm-1", "vm-9"]) firstDesk = true := by
    decide +kernel
  obtain ⟨plan, desk, returned⟩ := exists_ok_of_returns answers
  have distinct : (["vm-1", "vm-9"].filter (smallCatalogs.qualifies .rational id)).Nodup := by decide +kernel
  exact ⟨plan, desk, returned, (plan_selects_iff smallSite_steady returned).mpr distinct⟩

theorem repeated_id_planned_twice : ¬ ∀ (site : Site) (cat : Catalogs) (world : World) (vmIds : List String)
    (plan : MigrationPlanResponse) (desk : Desk), Steady site cat →
    createMigrationPlan .rational site vmIds ⟨world, getVmwareInventoryService, getVmwareMappingEngine⟩ =
      .ok plan desk → Selects .rational site.lower cat vmIds plan := by
  intro claim
  have answers : returns (createMigrationPlan .rational smallSite ["vm-1", "vm-1"]) firstDesk = true := by
    decide +kernel
  obtain ⟨plan, desk, returned⟩ := exists_ok_of_returns answers
  have once := (claim smallSite smallCatalogs .initial _ plan desk smallSite_steady returned).once "vm-1"
  have twice : (["vm-1", "vm-1"].filter (smallCatalogs.qualifies .rational id)).count "vm-1" = 2 := by decide +kernel
  have counted := (createMigrationPlan_ids smallSite_steady returned).count_eq "vm-1"
  have most : (plan.vms.map MigrationPlanVM.vmId).count "vm-1" ≤ 1 := by
    rw [once]
    split
    · exact Nat.le_refl 1
    · exact Nat.zero_le 1
  have same := counted.trans twice
  omega

end VMachine.VMware
