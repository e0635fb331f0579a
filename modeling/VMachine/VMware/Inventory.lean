import Mathlib
import VMachine.Lib.FirstSeen
import VMachine.Lib.Python

/-! What is read of a vCenter VM object, and the summary that is built from it:
`get_vm_detail` of the client factory and `_build_vm_summary` of the inventory service.
Attributes that the code guards may be missing or None. Array properties of the vSphere
types are always lists, empty when unset. -/
namespace VMachine.VMware
open Py

/- The backing of a disk or of a network card; each reads its own attributes. -/
structure Backing where
  fileName : Attr String := .unset
  thinProvisioned : Attr Bool := .unset
  deviceName : Attr String := .unset
  portgroupKey : Attr (Attr String) := .unset
  deriving Repr

/- The ethernet cards the code tells apart. -/
inductive Card where
  | vmxnet3
  | vmxnet2
  | e1000e
  | e1000
  | pcnet32
  | sriov
  | other
  deriving Repr, DecidableEq

/- The device classes of the isinstance tests. A ParaVirtualSCSIController is a
VirtualSCSIController too. -/
inductive Kind where
  | virtualDisk
  | ethernet (card : Card)
  | scsi (paravirtual : Bool)
  | ahci
  | nvme
  | ide
  | other
  deriving Repr, DecidableEq

structure Device where
  kind : Kind
  label : Attr (Attr String) := .unset
  backing : Attr Backing := .unset
  capacityInKB : Attr Int := .unset
  capacityInBytes : Attr Int := .unset
  macAddress : Attr String := .unset
  subType : Attr String := .unset
  deriving Repr

structure Hardware where
  numCPU : Attr Int
  numCoresPerSocket : Attr Int
  memoryMB : Attr Int
  device : List Device
  deriving Repr

structure Config where
  hardware : Attr Hardware := .unset
  firmware : Attr String := .unset
  efiSecureBootEnabled : Attr (Attr Bool) := .unset
  annotation : Attr String := .unset
  deriving Repr

structure Guest where
  guestFullName : Attr String := .unset
  toolsStatus : Attr String := .unset
  net : Option (List (Attr (List String))) := some []
  deriving Repr

structure Summary where
  moId : Attr String := .missing
  guestFullName : Attr String := .unset
  powerState : Attr (Attr String) := .unset
  deriving Repr

/- `layout` holds the disk layouts, each with its list of files. -/
structure VirtualMachine where
  moId : Attr String := .unset
  name : Attr String := .unset
  config : Attr Config := .unset
  guest : Attr Guest := .unset
  summary : Attr Summary := .unset
  parent : Attr (Attr String) := .unset
  layout : Attr (Attr (List (Attr (List String)))) := .unset
  datastore : Attr (List (Attr String)) := .unset
  deriving Repr

/- `vm.config.hardware`, when every guard on the way is passed. -/
def VirtualMachine.hardware (vm : VirtualMachine) : Option Hardware :=
  vm.config.toOption.bind (fun config => config.hardware.toOption)

def VirtualMachine.devices (vm : VirtualMachine) : List Device :=
  match vm.hardware with
  | some hw => hw.device
  | none => []

/- `vm.layout.disk`, or nothing. -/
def VirtualMachine.diskLayouts (vm : VirtualMachine) : List (Attr (List String)) :=
  ((vm.layout.toOption.bind Attr.toOption).getD [])

/- The label of a device info, when there is one that is not empty. -/
def Device.givenLabel (dev : Device) : Option String :=
  nonempty (dev.label.toOption.bind Attr.toOption)

/- A disk as a dictionary of the extraction. A layout file has no datastore_name. -/
structure DiskEntry where
  diskFile : String
  capacityGb : Int
  thinProvisioned : Bool
  datastoreName : Option String
  deriving Repr, DecidableEq

def fileEntry (df : String) : DiskEntry := ⟨df, 0, true, none⟩

/- `str(fileName).strip("[]").split("] ")[0]`. -/
def datastoreName (backing : Backing) : Option String :=
  (nonempty backing.fileName.toOption).bind (fun name => ((strip "[]" name).splitOn "] ").head?)

/- Whole gigabytes, rounded down, of the first of the two sizes that is set and not zero. -/
def Device.capacityGb (dev : Device) : Int :=
  match dev.capacityInKB with
  | .value c => if c ≠ 0 then c / (1024 * 1024) else bytes
  | _ => bytes
where
  bytes := match dev.capacityInBytes with
    | .value b => if b ≠ 0 then b / 1024 ^ 3 else 0
    | _ => 0

/- The name a disk gets when `count` entries are in the list before it. -/
def Device.diskLabel (count : Nat) (dev : Device) : String :=
  dev.givenLabel.getD ("Hard disk " ++ toString (count + 1))

def deviceEntry (count : Nat) (dev : Device) : DiskEntry where
  diskFile := dev.diskLabel count
  capacityGb := dev.capacityGb
  thinProvisioned := (dev.backing.toOption.bind (fun b => b.thinProvisioned.toOption)).getD false
  datastoreName := dev.backing.toOption.bind datastoreName

/- The two appending loops of `_extract_vm_disks`. -/
def appendFiles (disks : List DiskEntry) : List (Attr (List String)) → List DiskEntry
  | [] => disks
  | files :: layouts =>
    appendFiles (disks ++ ((files.toOption.getD []).map fileEntry)) layouts

def appendDevices (disks : List DiskEntry) : List Device → List DiskEntry
  | [] => disks
  | dev :: devs =>
    match dev.kind with
    | .virtualDisk => appendDevices (disks ++ [deviceEntry disks.length dev]) devs
    | _ => appendDevices disks devs

def extractVmDisks (vm : VirtualMachine) : List DiskEntry :=
  if vm.diskLayouts.isEmpty then []
  else FirstSeen.unique DiskEntry.diskFile (appendDevices (appendFiles [] vm.diskLayouts) vm.devices)

structure NicEntry where
  label : String
  networkName : String
  macAddress : Option String
  nicType : String
  deriving Repr, DecidableEq

def Card.nicType : Card → String
  | .vmxnet3 => "vmxnet3"
  | .vmxnet2 => "vmxnet2"
  | .e1000e => "e1000e"
  | .e1000 => "e1000"
  | .pcnet32 => "pcnet32"
  | .sriov => "sriov"
  | .other => "unknown"

def networkName (backing : Backing) : Option String :=
  match nonempty backing.deviceName.toOption with
  | some name => some name
  | none => (nonempty (backing.portgroupKey.toOption.bind Attr.toOption)).map ("dvportgroup-" ++ ·)

def appendNics (nics : List NicEntry) : List Device → List NicEntry
  | [] => nics
  | dev :: devs =>
    match dev.kind with
    | .ethernet card =>
      let nic : NicEntry :=
        { label := dev.givenLabel.getD ("NIC " ++ toString (nics.length + 1))
          networkName := (dev.backing.toOption.bind networkName).getD "unknown"
          macAddress := dev.macAddress.toOption
          nicType := card.nicType }
      appendNics (nics ++ [nic]) devs
    | _ => appendNics nics devs

def extractVmNics (vm : VirtualMachine) : List NicEntry := appendNics [] vm.devices

def extractVmDatastores (vm : VirtualMachine) : List String :=
  (vm.datastore.toOption.getD []).filterMap (fun name => nonempty name.toOption)

/- Each device by the first isinstance test it passes, so the paravirtual test comes too
late. `lower` is `str.lower`, on which nothing here depends. -/
def controllerType (lower : String → String) (dev : Device) : Option String :=
  match dev.kind with
  | .scsi _ => some (((nonempty dev.subType.toOption).map lower).getD "lsilogic")
  | .ahci => some "sata"
  | .nvme => some "nvme"
  | .ide => some "ide"
  | _ => none

def nicTypeEntry (dev : Device) : Option (String × String) :=
  match dev.kind with
  | .ethernet card => some (dev.givenLabel.getD "", card.nicType)
  | _ => none

/- The dictionary `get_vm_detail` returns. The three sizes may be None. -/
structure Detail where
  id : String
  name : String
  powerState : String
  guestOs : String
  cpuCount : Option Int
  cpuCoresPerSocket : Option Int
  memoryMb : Option Int
  disks : List DiskEntry
  nics : List NicEntry
  datastores : List String
  clusterName : Option String
  ipAddresses : List String
  annotation : String
  firmware : Option String
  secureBootEnabled : Option Bool
  vmwareToolsStatus : Option String
  diskControllerTypes : List String
  nicTypes : List (String × String)
  deriving Repr, DecidableEq

/- An attribute whose presence alone decides: `str(x.name)` if there is one. -/
def strIfHas (attr : Attr String) : Option String :=
  if attr.has then some (str attr.toOption) else none

def guestFullName (vm : VirtualMachine) : Option String :=
  let summary := vm.summary.toOption.bind (fun s => s.guestFullName.toOption)
  match vm.guest.toOption with
  | some guest => if guest.guestFullName.has then guest.guestFullName.toOption else summary
  | none => summary

def vmId (vm : VirtualMachine) : String :=
  match nonempty vm.moId.toOption with
  | some id => id
  | none => str ((vm.summary.toOption.map (fun s => s.moId.getD "")).getD (some ""))

def powerState (vm : VirtualMachine) : String :=
  match vm.summary.toOption with
  | some summary =>
    match summary.powerState with
    | .missing | .unset => "unknown"
    | .value state => str (state.getD "unknown")
  | none => "unknown"

def getVmDetail (lower : String → String) (vm : VirtualMachine) : Detail where
  id := vmId vm
  name := str (vm.name.getD "")
  powerState := powerState vm
  guestOs := (guestFullName vm).getD ""
  cpuCount := (vm.hardware.map (fun hw => hw.numCPU.getD 0)).getD (some 0)
  cpuCoresPerSocket := (vm.hardware.map (fun hw => hw.numCoresPerSocket.getD 1)).getD (some 1)
  memoryMb := (vm.hardware.map (fun hw => hw.memoryMB.getD 0)).getD (some 0)
  disks := extractVmDisks vm
  nics := extractVmNics vm
  datastores := extractVmDatastores vm
  clusterName := vm.parent.toOption.bind Attr.toOption
  ipAddresses := match vm.guest.toOption.bind Guest.net with
    | some nets => nets.flatMap (fun net => net.toOption.getD [])
    | none => []
  annotation := (vm.config.toOption.bind (fun c => c.annotation.toOption)).getD ""
  firmware := vm.config.toOption.bind (fun c => strIfHas c.firmware)
  secureBootEnabled := (vm.config.toOption.bind (fun c => c.efiSecureBootEnabled.toOption)).map
    (fun enabled => enabled.toOption.getD false)
  vmwareToolsStatus := vm.guest.toOption.bind (fun g => strIfHas g.toolsStatus)
  diskControllerTypes := vm.devices.filterMap (controllerType lower)
  nicTypes := vm.devices.filterMap nicTypeEntry

structure VMDisk where
  label : String
  capacityGb : Int
  thinProvisioned : Bool
  datastoreName : Option String
  controllerType : Option String
  deriving Repr, DecidableEq

structure VMNic where
  label : String
  networkName : String
  macAddress : Option String
  ipAddresses : List String
  nicType : Option String
  deriving Repr, DecidableEq

structure VMHardware where
  cpuCount : Int
  cpuCoresPerSocket : Int
  memoryMb : Int
  disks : List VMDisk
  nics : List VMNic
  deriving Repr, DecidableEq

structure VMSummary where
  id : String
  name : String
  powerState : String
  guestOs : Option String
  hardware : Option VMHardware
  clusterName : Option String
  datastores : List String
  tags : List String
  annotation : Option String
  firmware : Option String
  secureBootEnabled : Option Bool
  vmwareToolsStatus : Option String
  diskControllerTypes : Option (List String)
  deriving Repr, DecidableEq

/- pydantic's rejection of a value: the model and the fields at fault. -/
structure ValidationError where
  model : String
  fields : List String
  deriving Repr, DecidableEq

def vmDisk (d : DiskEntry) : VMDisk := ⟨d.diskFile, d.capacityGb, d.thinProvisioned, d.datastoreName, none⟩

def vmNic (n : NicEntry) : VMNic := ⟨n.label, n.networkName, n.macAddress, [], some n.nicType⟩

/- The constructor of VMHardware, whose three sizes are plain integers. -/
def vmHardware (cpuCount cpuCoresPerSocket memoryMb : Option Int) (disks : List VMDisk)
    (nics : List VMNic) : Except ValidationError VMHardware :=
  match cpuCount, cpuCoresPerSocket, memoryMb with
  | some cpus, some cores, some memory => .ok ⟨cpus, cores, memory, disks, nics⟩
  | _, _, _ => .error ⟨"VMHardware",
      [("cpu_count", cpuCount), ("cpu_cores_per_socket", cpuCoresPerSocket), ("memory_mb", memoryMb)].filterMap
        (fun field => if field.2.isNone then some field.1 else none)⟩

/- The constructor of VMSummary, whose other fields cannot fail. -/
def vmSummary (detail : Detail) (hw : VMHardware) : VMSummary where
  id := detail.id
  name := detail.name
  powerState := detail.powerState
  guestOs := some detail.guestOs
  hardware := some hw
  clusterName := detail.clusterName
  datastores := detail.datastores
  tags := []
  annotation := some detail.annotation
  firmware := detail.firmware
  secureBootEnabled := detail.secureBootEnabled
  vmwareToolsStatus := detail.vmwareToolsStatus
  diskControllerTypes := some detail.diskControllerTypes

def buildVmSummary (lower : String → String) (vm : VirtualMachine) : Except ValidationError VMSummary :=
  let detail := getVmDetail lower vm
  (vmHardware detail.cpuCount detail.cpuCoresPerSocket detail.memoryMb
    (detail.disks.map vmDisk) (detail.nics.map vmNic)).map (vmSummary detail)

def VMSummary.disks (vm : VMSummary) : List VMDisk :=
  match vm.hardware with
  | some hw => hw.disks
  | none => []

/- The sum that the flavor match, the compatibility check and the plan all take. -/
def VMSummary.totalDisk (vm : VMSummary) : Int := (vm.disks.map VMDisk.capacityGb).sum

end VMachine.VMware
