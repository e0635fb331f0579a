import VMachine.OpenStack.Services
import VMachine.VMware.Compatibility
import VMachine.VMware.Mapping

/-! `VMwareMappingEngine` without its catalogs: the summaries that are made of the flavors
and networks of the project, the flavor nearest to a VM, and the network that a card's port
group is mapped to. -/
namespace VMachine.VMware
open Py OpenStack

/- The fields of FlavorSummary that the engine sets. -/
structure OSFlavorSummary where
  id : Option String
  name : Option String
  vcpus : Option Int
  ram : Option Int
  disk : Option Int
  deriving Repr, DecidableEq

structure OSNetworkSummary where
  id : Option String
  name : Option String
  deriving Repr, DecidableEq

structure FlavorMatchResult (F : Type) where
  flavorId : String
  flavorName : String
  score : F
  vcpus : Int
  ram : Int
  disk : Int
  overprovisioned : Bool
  underprovisioned : Bool
  deriving Repr, DecidableEq

structure NetworkMappingResult (F : Type) where
  vmNetwork : String
  openstackNetworkId : Option String
  openstackNetworkName : Option String
  matchType : String
  confidence : F
  deriving Repr, DecidableEq

structure VMMappingResult (F : Type) where
  vmId : String
  vmName : String
  flavorMatch : Option (FlavorMatchResult F)
  networkMappings : List (NetworkMappingResult F)
  diskMappings : List DiskMappingResult
  deriving Repr, DecidableEq

/- A declared field of an instance, by its type. -/
def strField (o : Obj) (name : String) : Option String :=
  match o.getattr name with
  | some (.str s) => some s
  | _ => none

def intField (o : Obj) (name : String) : Option Int :=
  match o.getattr name with
  | some (.int i) => some i
  | _ => none

/- `OSFlavorSummary(id=f.id, ...)`. -/
def osFlavorSummary (f : Val) : Except Exc OSFlavorSummary := do
  let id ← readAttr f "id"
  let name ← readAttr f "name"
  let vcpus ← readAttr f "vcpus"
  let ram ← readAttr f "ram"
  let disk ← readAttr f "disk"
  let o ← validate flavorSummarySchema
    [("id", id), ("name", name), ("vcpus", vcpus), ("ram", ram), ("disk", disk)]
  return ⟨strField o "id", strField o "name", intField o "vcpus", intField o "ram", intField o "disk"⟩

def osNetworkSummary (n : Val) : Except Exc OSNetworkSummary := do
  let id ← readAttr n "id"
  let name ← readAttr n "name"
  let o ← validate networkSummarySchema [("id", id), ("name", name)]
  return ⟨strField o "id", strField o "name"⟩

/- A flavor that states all three sizes. -/
structure SizedFlavor where
  flavor : OSFlavorSummary
  vcpus : Int
  ram : Int
  disk : Int

def OSFlavorSummary.sized (f : OSFlavorSummary) : Option SizedFlavor :=
  match f.vcpus, f.ram, f.disk with
  | some vcpus, some ram, some disk => some ⟨f, vcpus, ram, disk⟩
  | _, _, _ => none

/- `max(..) or 1` over the flavors that state the size. -/
def largest (sizes : List (Option Int)) : Except Exc Int :=
  match (sizes.filterMap id).max? with
  | some m => .ok (if m = 0 then 1 else m)
  | none => .error (.foreign "ValueError" "max() arg is an empty sequence")

/- What a VM needs. -/
structure Target where
  cpu : Int
  ram : Int
  disk : Int

/- The flavor is too small in some dimension. -/
def SizedFlavor.short (f : SizedFlavor) (target : Target) : Bool :=
  decide (f.vcpus < target.cpu ∨ f.ram < target.ram ∨ f.disk < target.disk)

section Matching
variable {F : Type} (ar : Arithmetic F)

/- The weighted distance, half as much again for a flavor that is too small. -/
def flavorDistance (target : Target) (maxCpu maxRam maxDisk : Int) (f : SizedFlavor) : F :=
  let square (size max : Int) : F := ar.pow (ar.lit (size / max : ℚ)) 2
  let distance := ar.sqrt (ar.add
    (ar.add (ar.mul (ar.lit (4 / 10)) (square (target.cpu - f.vcpus) maxCpu))
      (ar.mul (ar.lit (4 / 10)) (square (target.ram - f.ram) maxRam)))
    (ar.mul (ar.lit (2 / 10)) (square (target.disk - f.disk) maxDisk)))
  if f.short target then ar.mul distance (ar.lit (15 / 10)) else distance

/- The first of the flavors at the least distance. No best one yet stands for infinity. -/
def nearer (distance : SizedFlavor → F) (best : Option (F × SizedFlavor)) (f : OSFlavorSummary) :
    Option (F × SizedFlavor) :=
  match f.sized, best with
  | none, _ => best
  | some sized, none => some (distance sized, sized)
  | some sized, some (least, found) =>
    if ar.lt (distance sized) least then some (distance sized, sized) else some (least, found)

def flavorMatch (target : Target) (distance : F) (best : SizedFlavor) : FlavorMatchResult F where
  flavorId := best.flavor.id.getD ""
  flavorName := best.flavor.name.getD ""
  score := ar.round (ar.max (ar.lit 0) (ar.sub (ar.lit 1) distance)) 4
  vcpus := best.vcpus
  ram := best.ram
  disk := best.disk
  overprovisioned := decide (target.cpu ≤ best.vcpus ∧ target.ram ≤ best.ram ∧ target.disk ≤ best.disk)
  underprovisioned := best.short target

/- `_match_flavor` once the flavors are there. A size that no flavor states raises. -/
def nearestFlavor (target : Target) (flavors : List OSFlavorSummary) :
    Except Exc (Option (FlavorMatchResult F)) := do
  if flavors.isEmpty then return none
  let maxCpu ← largest (flavors.map OSFlavorSummary.vcpus)
  let maxRam ← largest (flavors.map OSFlavorSummary.ram)
  let maxDisk ← largest (flavors.map OSFlavorSummary.disk)
  let best := flavors.foldl (nearer ar (flavorDistance ar target maxCpu maxRam maxDisk)) none
  return best.map (fun (distance, flavor) => flavorMatch ar target distance flavor)

variable (lower : String → String)

/- One card: a network of that very name, or else one that differs in case only. -/
def mapNetwork (networks : List OSNetworkSummary) (nic : VMNic) : NetworkMappingResult F :=
  let sameName (net : OSNetworkSummary) : Bool := decide (net.name = some nic.networkName)
  let sameLower (net : OSNetworkSummary) : Bool :=
    decide ((nonempty net.name).map lower = some (lower nic.networkName))
  match networks.find? sameName with
  | some net => ⟨nic.networkName, net.id, net.name, "exact_name", ar.lit 1⟩
  | none =>
    match networks.find? sameLower with
    | some net => ⟨nic.networkName, net.id, net.name, "case_insensitive", ar.lit (9 / 10)⟩
    | none => ⟨nic.networkName, none, none, "not_found", ar.lit 0⟩

end Matching

end VMachine.VMware
