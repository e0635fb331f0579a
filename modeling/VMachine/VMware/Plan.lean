import VMachine.VMware.Assessment

/-! `VMwarePlanService` and the endpoint that returns a plan. Only compatible VMs enter a
plan; their mappings are turned into numbered steps, and the VMs are sorted by priority and
name. -/
namespace VMachine.VMware
open Py Effects OpenStack

structure MigrationStep where
  order : Nat
  action : String
  description : String
  resourceId : Option String := none
  estimatedMinutes : Nat
  deriving Repr, DecidableEq

structure MigrationPlanVM where
  vmId : String
  vmName : String
  priority : Int
  targetFlavorId : Option String
  targetNetworkIds : List String
  targetVolumeTypes : List String
  estimatedDowntimeMinutes : Nat
  steps : List MigrationStep
  estimatedTotalMinutes : Nat
  deriving Repr, DecidableEq

structure MigrationPlanResponse where
  planId : String
  vms : List MigrationPlanVM
  totalVms : Nat
  totalEstimatedMinutes : Nat
  createdAt : String
  operationTaskId : Option Nat := none
  deriving Repr, DecidableEq

/- A step as it is appended; `order` counts the steps before it. -/
def MigrationStep.numbered (i : Nat) (step : MigrationStep) : MigrationStep := { step with order := i + 1 }

section Steps
variable {F : Type}

def flavorStep (fm : FlavorMatchResult F) : MigrationStep where
  order := 0
  action := "verify_flavor"
  description := "Verify target flavor '" ++ fm.flavorName ++ "' exists in OpenStack"
  resourceId := some fm.flavorId
  estimatedMinutes := 1

def networkStep (nm : NetworkMappingResult F) : MigrationStep :=
  if nm.matchType ≠ "not_found" then
    { order := 0, action := "verify_network"
      description := "Map VMware network '" ++ nm.vmNetwork ++ "' to OpenStack network '" ++
        ((nonempty nm.openstackNetworkName).getD "?") ++ "'"
      resourceId := nm.openstackNetworkId, estimatedMinutes := 1 }
  else
    { order := 0, action := "create_network"
      description := "Create OpenStack network for VMware port group '" ++ nm.vmNetwork ++ "'"
      estimatedMinutes := 3 }

def volumeStep (dm : DiskMappingResult) : MigrationStep where
  order := 0
  action := "create_volume"
  description := "Create " ++ toString dm.openstackSizeGb ++ " GB volume for '" ++ dm.vmDiskLabel ++ "'"
  estimatedMinutes := if dm.bootable then 2 else 1

/- The three steps that every plan ends with. -/
def lastSteps (vm : VMSummary) : List MigrationStep :=
  [{ order := 0, action := "import_image"
     description := "Export VM '" ++ vm.name ++ "' disk and upload to OpenStack Glance", estimatedMinutes := 15 },
   { order := 0, action := "create_server"
     description := "Create OpenStack server from imported image with matched flavor and networks"
     estimatedMinutes := 5 },
   { order := 0, action := "cleanup", description := "Clean up temporary exported disk files"
     estimatedMinutes := 1 }]

def buildSteps (vm : VMSummary) (mapping : Option (VMMappingResult F)) : List MigrationStep :=
  let flavor := (mapping.bind VMMappingResult.flavorMatch).toList.map flavorStep
  let networks := ((mapping.map VMMappingResult.networkMappings).getD []).map networkStep
  let volumes := ((mapping.map VMMappingResult.diskMappings).getD []).map volumeStep
  (flavor ++ networks ++ volumes ++ lastSteps vm).mapIdx MigrationStep.numbered

end Steps

def estimateDowntime (lower : String → String) (vm : VMSummary) : Nat :=
  if lower vm.powerState = "poweredoff" then 0
  else if lower vm.powerState = "suspended" then 5
  else if 500 < vm.totalDisk then 30
  else if 100 < vm.totalDisk then 15
  else 10

/- The key by which a plan is sorted. -/
def MigrationPlanVM.precedes (a b : MigrationPlanVM) : Bool :=
  decide (a.priority < b.priority ∨ a.priority = b.priority ∧ ¬ b.vmName < a.vmName)

section Generating
variable {F : Type} (lower : String → String)

/- The constructor of MigrationPlanVM takes priorities from 1 to 10. -/
def planVm (overrides : List (String × Int)) (vm : VMSummary) (mapping : Option (VMMappingResult F)) :
    Except Exc MigrationPlanVM :=
  let priority := (overrides.lookup vm.id).getD 5
  if 1 ≤ priority ∧ priority ≤ 10 then
    let steps := buildSteps vm mapping
    .ok {
      vmId := vm.id
      vmName := vm.name
      priority := priority
      targetFlavorId := (mapping.bind VMMappingResult.flavorMatch).map FlavorMatchResult.flavorId
      targetNetworkIds := ((mapping.map VMMappingResult.networkMappings).getD []).filterMap
        (fun nm => nonempty nm.openstackNetworkId)
      targetVolumeTypes := ((mapping.map VMMappingResult.diskMappings).getD []).filterMap
        (fun dm => nonempty dm.openstackVolumeType)
      estimatedDowntimeMinutes := estimateDowntime lower vm
      steps := steps
      estimatedTotalMinutes := (steps.map MigrationStep.estimatedMinutes).sum }
  else .error (.validationError "MigrationPlanVM" ["priority"])

/- What `generate_plan` is given of a VM. -/
structure Candidate (F : Type) where
  vm : VMSummary
  compatibility : ScoredCompatibilityResult F
  mapping : Option (VMMappingResult F)

/- The entries of the plan, sorted. The sort is stable. -/
def planVms (candidates : List (Candidate F)) (overrides : List (String × Int)) :
    Except Exc (List MigrationPlanVM) := do
  let compatible := candidates.filter (fun c => c.compatibility.compatible)
  let vms ← compatible.mapM (fun c => planVm lower overrides c.vm c.mapping)
  return vms.insertionSort (fun a b => a.precedes b = true)

def generatePlan (planId createdAt : String) (candidates : List (Candidate F)) (overrides : List (String × Int)) :
    Except Exc MigrationPlanResponse := do
  let vms ← planVms lower candidates overrides
  return {
    planId := planId
    vms := vms
    totalVms := vms.length
    totalEstimatedMinutes := (vms.map MigrationPlanVM.estimatedTotalMinutes).sum
    createdAt := createdAt }

end Generating

section Endpoint
variable {F : Type} (ar : Arithmetic F) (site : Site)

/- One round of the loop over the ids. -/
def candidate (vmId : String) : V (Option (Candidate F)) := do
  match ← getVm site vmId with
  | none => return none
  | some vm =>
    let compatibility := evaluate ar site.lower vm
    let mapping ← mapVm ar site vm
    return some ⟨vm, compatibility, some mapping⟩

def candidates : List String → V (List (Candidate F))
  | [] => return []
  | vmId :: vmIds => do
    let first ← candidate ar site vmId
    let rest ← candidates vmIds
    return first.toList ++ rest

/- `create_migration_plan`. The body of the request is a list of ids, so there are no priority
overrides. -/
def createMigrationPlan (vmIds : List String) : V MigrationPlanResponse := do
  if vmIds.isEmpty then throw (.validationError "MigrationPlanRequest" ["vm_ids"])
  let task ← inWorld (createTask site.env "vmware_migration_plan" "plan" (targetId vmIds))
  inWorld (updateTask site.env task .running .none none)
  tryCatch
    (do
      let vms ← candidates ar site vmIds
      let n ← inWorld ask
      let plan ← liftExcept (generatePlan site.lower (site.env.uuid n) (site.isoformat (site.env.wall n)) vms [])
      inWorld (updateTask site.env task .succeeded .none none)
      return { plan with operationTaskId := some task })
    (fun exc => do
      inWorld (updateTask site.env task .failed .none (some exc.message))
      throw exc)

end Endpoint

section Returning
variable {F : Type} {ar : Arithmetic F} {site : Site}

/-- A plan that is returned has been generated, under an id drawn for it, from the VMs that the
loop has found. -/
theorem createMigrationPlan_generates {P : List (Candidate F) → Prop} {vmIds : List String} {desk : Desk}
    (loop : ∀ w, wp (candidates ar site vmIds) { desk with world := w } (fun vms _ => P vms) (fun _ _ => True)) :
    wp (createMigrationPlan ar site vmIds) desk
      (fun plan _ => ∃ vms n task generated, P vms ∧
        generatePlan site.lower (site.env.uuid n) (site.isoformat (site.env.wall n)) vms [] = .ok generated ∧
        plan = { generated with operationTaskId := some task }) (fun _ _ => True) := by
  have rethrown (task : Nat) (exc : Exc) (t : Desk) {Q : MigrationPlanResponse → Desk → Prop} :
      wp (do inWorld (updateTask site.env task .failed .none (some exc.message)); throw exc : V MigrationPlanResponse)
        t Q (fun _ _ => True) :=
    wp_mono (raises_then (fun _ => raises_throw exc) t) (fun _ _ never => never.elim) (fun _ _ _ => trivial)
  unfold createMigrationPlan
  split
  · trivial
  · rw [wp_bind, wp_inWorld]
    refine wp_mono (wp_true _ _) ?_ (fun _ _ _ => trivial)
    intro task w _
    rw [wp_bind, wp_inWorld]
    refine wp_mono (wp_true _ _) ?_ (fun _ _ _ => trivial)
    intro _ w _
    rw [wp_tryCatch, wp_bind]
    refine wp_mono (loop w) ?_ (fun exc t _ => rethrown task exc t)
    intro vms t holds
    rw [wp_bind]
    refine wp_mono (wp_true _ _) ?_ (fun exc t _ => rethrown task exc t)
    intro n t _
    rw [wp_bind]
    cases generated : generatePlan site.lower (site.env.uuid n) (site.isoformat (site.env.wall n)) vms [] with
    | error exc => exact rethrown task exc t
    | ok plan =>
      rw [wp_liftExcept_ok, wp_bind]
      refine wp_mono (wp_true _ _) ?_ (fun exc t _ => rethrown task exc t)
      intro _ _ _
      exact ⟨vms, n, task, plan, holds, generated, rfl⟩

/-- A generated plan keeps the id it is given, and its minutes are those of its entries. -/
theorem generatePlan_sound {lower : String → String} {planId createdAt : String} {vms : List (Candidate F)}
    {overrides : List (String × Int)} {plan : MigrationPlanResponse}
    (generated : generatePlan lower planId createdAt vms overrides = .ok plan) :
    plan.planId = planId ∧ planVms lower vms overrides = .ok plan.vms ∧
    plan.totalEstimatedMinutes = (plan.vms.map MigrationPlanVM.estimatedTotalMinutes).sum := by
  unfold generatePlan at generated
  cases sorted : planVms lower vms overrides with
  | error exc => simp [sorted, bind, Except.bind] at generated
  | ok entries =>
    simp only [sorted, bind, Except.bind, pure, Except.pure, Except.ok.injEq] at generated
    rw [← generated]
    exact ⟨rfl, rfl, rfl⟩

end Returning

end VMachine.VMware
