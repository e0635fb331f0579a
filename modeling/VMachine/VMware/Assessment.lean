import VMachine.OpenStack.Tasks
import VMachine.VMware.MappingEngine

/-! The services an assessment uses, with the caches each of them keeps, and the sequential
endpoint. FastAPI builds the services anew for every request; what outlives them is the
world they share. -/
namespace VMachine.VMware
open Py Effects OpenStack

/- Of the three caches of the service, the one that an assessment reads. -/
structure VMwareInventoryService where
  vmCache : Cache.TTLCache (List VMSummary)

structure VMwareMappingEngine where
  flavorCache : Option (List OSFlavorSummary)
  networkCache : Option (List OSNetworkSummary)
  deriving Repr, DecidableEq

/- What is outside: OpenStack, the database and the clock in `env`, vCenter, `str.lower` and
the two ways to write a time. -/
structure Site where
  env : Env
  vcenter : Nat → Except Exc (List VirtualMachine)
  lower : String → String
  strftime : Nat → String
  isoformat : Nat → String

/- What an evaluation can see and change. -/
structure Desk where
  world : World
  inventory : VMwareInventoryService
  mappingEngine : VMwareMappingEngine

abbrev V := EStateM Exc Desk

/- A program of the OpenStack layer, run with the services at hand. -/
def inWorld {α : Type} (m : M α) : V α := fun desk =>
  match m desk.world with
  | .ok a w => .ok a { desk with world := w }
  | .error exc w => .error exc { desk with world := w }

section Dependencies

def getVmwareInventoryService : VMwareInventoryService := ⟨⟨Cache.seconds 300, "default", ∅⟩⟩

def getVmwareMappingEngine : VMwareMappingEngine := ⟨none, none⟩

end Dependencies

/- The exception a pydantic constructor raises. -/
def raised {α : Type} : Except ValidationError α → Except Exc α
  | .ok a => .ok a
  | .error e => .error (.validationError e.model e.fields)

def liftExcept {α : Type} : Except Exc α → V α
  | .ok a => return a
  | .error exc => throw exc

section Inventory
variable (site : Site)

def vmCacheGet (key : String) : V (Option (List VMSummary)) := do
  let n ← inWorld ask
  let desk ← get
  let (found, vmCache, counters) :=
    desk.inventory.vmCache.get (site.env.wall n) key desk.world.cache.counters
  set { desk with
    inventory := ⟨vmCache⟩
    world := { desk.world with cache := { desk.world.cache with counters := counters } } }
  return found

def vmCacheSet (key : String) (items : List VMSummary) : V Unit := do
  let n ← inWorld ask
  modify (fun desk => { desk with inventory := ⟨desk.inventory.vmCache.set (site.env.wall n) key items⟩ })

/- `list_vms(use_cache=True)`. -/
def listVms : V (List VMSummary) := do
  match ← vmCacheGet site "vms" with
  | some cached => return cached
  | none =>
    let rawVms ← liftExcept (site.vcenter (← inWorld ask))
    let items ← liftExcept (rawVms.mapM (fun vm => raised (buildVmSummary site.lower vm)))
    vmCacheSet site "vms" items
    return items

def getVm (vmId : String) : V (Option VMSummary) := do
  let items ← listVms site
  return items.find? (fun vm => vm.id == vmId)

end Inventory

section Engine
variable {F : Type} (ar : Arithmetic F) (site : Site)

def getFlavors : V (List OSFlavorSummary) := do
  match (← get).mappingEngine.flavorCache with
  | some flavors => return flavors
  | none =>
    let raw ← inWorld (call site.env "compute" "flavors" [] [])
    let flavors ← liftExcept (comprehend osFlavorSummary raw)
    modify (fun desk => { desk with mappingEngine := { desk.mappingEngine with flavorCache := some flavors } })
    return flavors

def getNetworks : V (List OSNetworkSummary) := do
  match (← get).mappingEngine.networkCache with
  | some networks => return networks
  | none =>
    let raw ← inWorld (call site.env "network" "networks" [] [])
    let networks ← liftExcept (comprehend osNetworkSummary raw)
    modify (fun desk => { desk with mappingEngine := { desk.mappingEngine with networkCache := some networks } })
    return networks

/- The flavors are not looked up for a VM without hardware. -/
def matchFlavor (vm : VMSummary) : V (Option (FlavorMatchResult F)) := do
  match vm.hardware with
  | none => return none
  | some hw =>
    let flavors ← getFlavors site
    liftExcept (nearestFlavor ar ⟨hw.cpuCount, hw.memoryMb, vm.totalDisk⟩ flavors)

def mapNetworks (vm : VMSummary) : V (List (NetworkMappingResult F)) := do
  if vm.nics.isEmpty then return []
  let networks ← getNetworks site
  return vm.nics.map (mapNetwork ar site.lower networks)

def mapVm (vm : VMSummary) : V (VMMappingResult F) := do
  let flavorMatch ← matchFlavor ar site vm
  let networkMappings ← mapNetworks ar site vm
  return ⟨vm.id, vm.name, flavorMatch, networkMappings, mapDisks vm⟩

/- `mapping = None`, and then the mapping where one is wanted. -/
def mapIf (includeMapping : Bool) (vm : VMSummary) : V (Option (VMMappingResult F)) := do
  if includeMapping then
    let mapping ← mapVm ar site vm
    return some mapping
  else return none

end Engine

structure AssessmentResult (F : Type) where
  vmId : String
  vmName : String
  compatibility : ScoredCompatibilityResult F
  mapping : Option (VMMappingResult F)
  deriving Repr, DecidableEq

structure AssessmentSummary where
  total : Nat
  compatible : Nat
  incompatible : Nat
  warningCount : Nat
  deriving Repr, DecidableEq

structure AssessmentResponse (F : Type) where
  assessments : List (AssessmentResult F)
  summary : AssessmentSummary
  operationTaskId : Nat
  deriving Repr, DecidableEq

/- `",".join(vm_ids[:5])`. -/
def targetId (vmIds : List String) : Val := .str (",".intercalate (vmIds.take 5))

section Sequential
variable {F : Type} (ar : Arithmetic F) (site : Site)

/- One round of the loop. A VM that is not in the inventory is skipped. -/
def assessVm (includeMapping : Bool) (vmId : String) : V (Option (AssessmentResult F)) := do
  match ← getVm site vmId with
  | none => return none
  | some vm =>
    let compatibility := evaluate ar site.lower vm
    let mapping ← mapIf ar site includeMapping vm
    return some ⟨vm.id, vm.name, compatibility, mapping⟩

/- The loop over the ids. -/
def assessEach (includeMapping : Bool) : List String → V (List (AssessmentResult F))
  | [] => return []
  | vmId :: vmIds => do
    let assessment ← assessVm ar site includeMapping vmId
    let rest ← assessEach includeMapping vmIds
    return assessment.toList ++ rest

def summarize (assessments : List (AssessmentResult F)) : AssessmentSummary :=
  let compatible := assessments.countP (fun a => a.compatibility.compatible)
  { total := assessments.length
    compatible := compatible
    incompatible := assessments.length - compatible
    warningCount := (assessments.map (fun a => a.compatibility.issues.length)).sum }

/- `assess_vms`. AssessmentRequest takes at least one id, and includes the mapping. -/
def assessVms (vmIds : List String) : V (AssessmentResponse F) := do
  if vmIds.isEmpty then throw (.validationError "AssessmentRequest" ["vm_ids"])
  let task ← inWorld (createTask site.env "vmware_assessment" "assessment" (targetId vmIds))
  inWorld (updateTask site.env task .running .none none)
  tryCatch
    (do
      let assessments ← assessEach ar site true vmIds
      inWorld (updateTask site.env task .succeeded .none none)
      return ⟨assessments, summarize assessments, task⟩)
    (fun exc => do
      inWorld (updateTask site.env task .failed .none (some exc.message))
      throw exc)

end Sequential

section Rules
variable {α : Type} {desk : Desk} {Q : α → Desk → Prop} {E : Exc → Desk → Prop}

theorem wp_inWorld (m : M α) : wp (inWorld m) desk Q E ↔
    wp m desk.world (fun a w => Q a { desk with world := w }) (fun exc w => E exc { desk with world := w }) := by
  simp only [wp, inWorld]
  cases m desk.world <;> rfl

@[simp] theorem wp_liftExcept_ok (a : α) : wp (liftExcept (.ok a)) desk Q E ↔ Q a desk := Iff.rfl

end Rules

end VMachine.VMware
