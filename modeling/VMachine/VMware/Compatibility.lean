import VMachine.Lib.Arithmetic
import VMachine.VMware.Inventory

/-! `VMwareCompatibilityService`: eleven checks, each of which may add issues, and the score
that the issues add up to. Scores are floats; the arithmetic is a parameter. -/
namespace VMachine.VMware
open Py

structure CompatibilityIssueDetail where
  severity : String
  category : String
  message : String
  compatible : Bool := false
  deriving Repr, DecidableEq

structure ScoredCompatibilityResult (F : Type) where
  vmId : String
  vmName : String
  compatible : Bool
  score : F
  issues : List CompatibilityIssueDetail
  summary : String
  deriving Repr, DecidableEq

def supportedOsPrefixes : List String :=
  ["centos", "debian", "ubuntu", "red hat", "rhel", "suse", "sles", "oracle linux", "rocky linux", "almalinux",
    "fedora", "freebsd", "windows server", "windows 10", "windows 11", "windows 8", "windows 2012",
    "windows 2016", "windows 2019", "windows 2022"]

def unsupportedOsPrefixes : List String := ["solaris", "hp-ux", "aix", "darwin", "mac os", "os/2", "netware"]

/- SCORE_WEIGHTS, with the weight of a severity it does not have. -/
def scoreWeight (severity : String) : ℚ :=
  ((([("critical", -3 / 10), ("high", -2 / 10), ("medium", -1 / 10), ("low", -5 / 100), ("info", 0)] :
    List (String × ℚ)).lookup severity).getD (-1 / 10))

/- Each check, with the issues it adds. Its metric is left out. -/
section Checks
variable (lower : String → String) (vm : VMSummary)

def checkPowerState : List CompatibilityIssueDetail :=
  if lower vm.powerState = "suspended" then
    [{ severity := "critical", category := "os"
       message := "VM is suspended — must be powered on before migration" }]
  else []

def checkOsCompat : List CompatibilityIssueDetail :=
  match nonempty vm.guestOs with
  | none =>
    [{ severity := "high", category := "os"
       message := "Guest OS not detected — unable to verify compatibility" }]
  | some guestOs =>
    let osLower := lower guestOs
    if unsupportedOsPrefixes.any (fun os => isIn os osLower) then
      [{ severity := "critical", category := "os", message := "Unsupported guest OS: " ++ guestOs }]
    else if supportedOsPrefixes.any (fun os => isIn os osLower) then []
    else
      [{ severity := "low", category := "os"
         message := "Unknown guest OS '" ++ guestOs ++ "' — compatibility not guaranteed", compatible := true }]

/- CPUs and memory are checked alike: too little is critical, more than the limit is noted. -/
def checkSize (category none : String) (limit : Int) (large : Int → String) (size : Option Int) :
    List CompatibilityIssueDetail :=
  let missing : List CompatibilityIssueDetail :=
    [{ severity := "critical", category := category, message := none }]
  match size with
  | .none => missing
  | some n =>
    if n ≤ 0 then missing
    else if limit < n then [{ severity := "low", category := category, message := large n, compatible := true }]
    else []

def checkCpu : List CompatibilityIssueDetail :=
  checkSize "cpu" "VM has no vCPUs configured" 128
    (fun n => "VM has " ++ toString n ++ " vCPUs — may exceed OpenStack quota limits")
    (vm.hardware.map (fun hw => hw.cpuCount))

def checkMemory : List CompatibilityIssueDetail :=
  checkSize "memory" "VM has no memory configured" 524288
    (fun n => "VM has " ++ toString n ++ " MB RAM — may exceed OpenStack limits")
    (vm.hardware.map (fun hw => hw.memoryMb))

/- The network cards of a VM, none when it has no hardware. -/
def VMSummary.nics : List VMNic := (vm.hardware.map (fun hw => hw.nics)).getD []

def checkDisk : List CompatibilityIssueDetail :=
  if vm.disks.isEmpty then
    [{ severity := "high", category := "disk", message := "VM has no disks attached" }]
  else if 2000 < vm.totalDisk then
    [{ severity := "low", category := "disk"
       message := "VM has " ++ toString vm.totalDisk ++ " GB total disk — large volume migration may be slow"
       compatible := true }]
  else []

def checkNetwork : List CompatibilityIssueDetail :=
  if vm.nics.isEmpty then
    [{ severity := "low", category := "network"
       message := "VM has no network adapters — will be isolated after migration", compatible := true }]
  else []

def checkFirmware : List CompatibilityIssueDetail :=
  match nonempty vm.firmware with
  | some fw =>
    if lower fw = "efi" then
      [{ severity := "medium", category := "firmware"
         message := "VM uses EFI/UEFI firmware — requires OpenStack UEFI support (hw_firmware_type=uefi)"
         compatible := true }]
    else []
  | none => []

def checkSecureBoot : List CompatibilityIssueDetail :=
  if vm.secureBootEnabled = some true then
    [{ severity := "high", category := "firmware"
       message := "Secure Boot is enabled — requires OpenStack with UEFI + hw_firmware_type=uefi + secure boot support" }]
  else []

def checkVmwareTools : List CompatibilityIssueDetail :=
  match nonempty vm.vmwareToolsStatus with
  | none => []
  | some status =>
    if isIn "notinstalled" (lower status) || isIn "notrunning" (lower status) then
      [{ severity := "medium", category := "vmware_tools"
         message := "VMware Tools status: " ++ status ++
           " — guest IP detection and clean shutdown may be affected"
         compatible := true }]
    else []

def controllerIssues (ctype : String) : List CompatibilityIssueDetail :=
  if lower ctype = "ide" then
    [{ severity := "high", category := "disk_controller"
       message := "Disk controller type '" ++ ctype ++
         "' may not be supported in OpenStack — consider converting to virtio/scsi" }]
  else if lower ctype = "lsilogic" then
    [{ severity := "low", category := "disk_controller"
       message := "Disk controller type '" ++ ctype ++ "' is legacy but generally compatible", compatible := true }]
  else if lower ctype = "nvme" then
    [{ severity := "medium", category := "disk_controller"
       message := "Disk controller type '" ++ ctype ++ "' requires OpenStack with NVMe emulation support"
       compatible := true }]
  else []

/- Controllers that differ in case only are looked at once. -/
def checkDiskControllers : List CompatibilityIssueDetail :=
  (FirstSeen.unique lower (vm.diskControllerTypes.getD [])).flatMap (controllerIssues lower)

def nicIssues (ntype : String) : List CompatibilityIssueDetail :=
  if ntype = "e1000" then
    [{ severity := "low", category := "nic"
       message := "NIC type 'e1000' is legacy — consider upgrading to vmxnet3 or virtio", compatible := true }]
  else if ntype = "vmxnet2" then
    [{ severity := "medium", category := "nic"
       message := "NIC type 'vmxnet2' requires OpenStack with vmxnet3 support — consider converting to virtio"
       compatible := true }]
  else if ntype = "sriov" then
    [{ severity := "medium", category := "nic"
       message := "NIC type 'sriov' requires OpenStack SR-IOV support — passthrough configuration needed"
       compatible := true }]
  else if ntype = "unknown" then
    [{ severity := "medium", category := "nic"
       message := "Unknown NIC type detected — compatibility not guaranteed", compatible := true }]
  else []

def checkNicTypes : List CompatibilityIssueDetail :=
  (FirstSeen.unique id (vm.nics.filterMap (fun nic => nonempty nic.nicType))).flatMap nicIssues

def compatibilityIssues : List CompatibilityIssueDetail :=
  checkPowerState lower vm ++ checkOsCompat lower vm ++ checkCpu vm ++ checkMemory vm ++ checkDisk vm ++
    checkNetwork vm ++ checkFirmware lower vm ++ checkSecureBoot vm ++ checkVmwareTools lower vm ++
    checkDiskControllers lower vm ++ checkNicTypes vm

end Checks

def CompatibilityIssueDetail.critical (i : CompatibilityIssueDetail) : Bool :=
  decide (i.severity = "critical") && !i.compatible

section Evaluation
variable {F : Type} (ar : Arithmetic F)

/- The loop over the issues: the score is clamped at every step. -/
def scoreOf (issues : List CompatibilityIssueDetail) : F :=
  issues.foldl (fun score issue =>
    if issue.compatible then score
    else ar.max (ar.lit 0) (ar.add score (ar.lit (scoreWeight issue.severity)))) (ar.lit 1)

def evaluate (lower : String → String) (vm : VMSummary) : ScoredCompatibilityResult F :=
  let issues := compatibilityIssues lower vm
  let score := scoreOf ar issues
  let compatible := ar.ge score (ar.lit (1 / 2)) && !issues.any CompatibilityIssueDetail.critical
  { vmId := vm.id
    vmName := vm.name
    compatible := compatible
    score := ar.round score 2
    issues := issues
    summary :=
      if compatible then "Compatible (score: " ++ ar.fixed score 2 ++ ")"
      else "Incompatible — " ++ toString (issues.countP CompatibilityIssueDetail.critical) ++
        " critical issues (score: " ++ ar.fixed score 2 ++ ")" }

end Evaluation

/- Every issue that is critical counts against the VM. -/
def Counted (issues : List CompatibilityIssueDetail) : Prop :=
  ∀ issue ∈ issues, issue.severity = "critical" → issue.compatible = false

section Verdict
variable {lower : String → String} {vm : VMSummary}

theorem Counted.append {issues others : List CompatibilityIssueDetail} (first : Counted issues)
    (second : Counted others) : Counted (issues ++ others) := by
  intro issue member
  exact (List.mem_append.mp member).elim (first issue) (second issue)

theorem Counted.flatMap {check : String → List CompatibilityIssueDetail} (each : ∀ found, Counted (check found))
    (found : List String) : Counted (found.flatMap check) := by
  intro issue member
  obtain ⟨one, _, raised⟩ := List.mem_flatMap.mp member
  exact each one issue raised

theorem checkPowerState_counted : Counted (checkPowerState lower vm) := by
  unfold checkPowerState
  split <;> simp [Counted]

theorem checkOsCompat_counted : Counted (checkOsCompat lower vm) := by
  unfold checkOsCompat
  split
  · simp [Counted]
  · simp only
    split
    · simp [Counted]
    · split <;> simp [Counted]

theorem checkSize_counted (category none : String) (limit : Int) (large : Int → String) (size : Option Int) :
    Counted (checkSize category none limit large size) := by
  unfold checkSize
  cases size with
  | none => simp [Counted]
  | some n =>
    simp only
    split
    · simp [Counted]
    · split <;> simp [Counted]

theorem checkDisk_counted : Counted (checkDisk vm) := by
  unfold checkDisk
  split
  · simp [Counted]
  · split <;> simp [Counted]

theorem checkNetwork_counted : Counted (checkNetwork vm) := by
  unfold checkNetwork
  split <;> simp [Counted]

theorem checkFirmware_counted : Counted (checkFirmware lower vm) := by
  unfold checkFirmware
  split
  · split <;> simp [Counted]
  · simp [Counted]

theorem checkSecureBoot_counted : Counted (checkSecureBoot vm) := by
  unfold checkSecureBoot
  split <;> simp [Counted]

theorem checkVmwareTools_counted : Counted (checkVmwareTools lower vm) := by
  unfold checkVmwareTools
  split
  · simp [Counted]
  · split <;> simp [Counted]

theorem controllerIssues_counted (ctype : String) : Counted (controllerIssues lower ctype) := by
  unfold controllerIssues
  split
  · simp [Counted]
  · split
    · simp [Counted]
    · split <;> simp [Counted]

theorem nicIssues_counted (ntype : String) : Counted (nicIssues ntype) := by
  unfold nicIssues
  split
  · simp [Counted]
  · split
    · simp [Counted]
    · split
      · simp [Counted]
      · split <;> simp [Counted]

theorem compatibilityIssues_counted : Counted (compatibilityIssues lower vm) := by
  unfold compatibilityIssues
  iterate 10 apply Counted.append
  · exact checkPowerState_counted
  · exact checkOsCompat_counted
  · exact checkSize_counted _ _ _ _ _
  · exact checkSize_counted _ _ _ _ _
  · exact checkDisk_counted
  · exact checkNetwork_counted
  · exact checkFirmware_counted
  · exact checkSecureBoot_counted
  · exact checkVmwareTools_counted
  · exact .flatMap controllerIssues_counted _
  · exact .flatMap nicIssues_counted _

/- The VM has a guest OS that cannot be migrated. -/
def unsupportedOs (lower : String → String) (vm : VMSummary) : Bool :=
  match nonempty vm.guestOs with
  | none => false
  | some guestOs => unsupportedOsPrefixes.any (fun os => isIn os (lower guestOs))

/- The VM runs or is off, under an OS that can be migrated, and nothing critical is found. -/
structure Migratable (lower : String → String) (vm : VMSummary) : Prop where
  awake : lower vm.powerState ≠ "suspended"
  supported : unsupportedOs lower vm = false
  uncritical : ∀ issue ∈ compatibilityIssues lower vm, issue.severity ≠ "critical"

theorem suspended_critical (suspended : lower vm.powerState = "suspended") :
    ∃ issue ∈ compatibilityIssues lower vm, issue.severity = "critical" := by
  have raised : ∃ issue ∈ checkPowerState lower vm, issue.severity = "critical" := by
    simp [checkPowerState, suspended]
  obtain ⟨issue, member, severity⟩ := raised
  exact ⟨issue, by simp [compatibilityIssues, member], severity⟩

theorem unsupportedOs_critical (unsupported : unsupportedOs lower vm = true) :
    ∃ issue ∈ compatibilityIssues lower vm, issue.severity = "critical" := by
  have raised : ∃ issue ∈ checkOsCompat lower vm, issue.severity = "critical" := by
    cases os : nonempty vm.guestOs with
    | none => simp [unsupportedOs, os] at unsupported
    | some guestOs =>
      simp only [unsupportedOs, os] at unsupported
      simp only [checkOsCompat, os, unsupported, if_true]
      exact ⟨_, List.mem_singleton_self _, rfl⟩
  obtain ⟨issue, member, severity⟩ := raised
  exact ⟨issue, by simp [compatibilityIssues, member], severity⟩

/-- Only what can be migrated is compatible. -/
theorem migratable_of_compatible {F : Type} {ar : Arithmetic F} (compatible : (evaluate ar lower vm).compatible = true) :
    Migratable lower vm := by
  have uncritical : ∀ issue ∈ compatibilityIssues lower vm, issue.severity ≠ "critical" := by
    intro issue member severity
    simp only [evaluate, Bool.and_eq_true, Bool.not_eq_true', List.any_eq_false] at compatible
    have counted := compatibilityIssues_counted issue member severity
    exact compatible.2 issue member (by simp [CompatibilityIssueDetail.critical, severity, counted])
  refine ⟨?_, ?_, uncritical⟩
  · intro suspended
    obtain ⟨issue, member, severity⟩ := suspended_critical suspended
    exact uncritical issue member severity
  · by_contra unsupported
    obtain ⟨issue, member, severity⟩ := unsupportedOs_critical (Bool.eq_true_of_not_eq_false unsupported)
    exact uncritical issue member severity

end Verdict

end VMachine.VMware
