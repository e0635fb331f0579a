import VMachine.VMware.Compatibility

/-! What the verdict of `evaluate` depends on. Of the eleven checks, eight conditions count
against a VM, each of them once; everything else is only noted. So the verdict has a closed
form, and the order and repetition of devices do not matter. -/
namespace VMachine.VMware
open Py

/- The severities that count against a VM, in the order of the issues. -/
def weighed (issues : List CompatibilityIssueDetail) : List String :=
  (issues.filter (fun issue => !issue.compatible)).map CompatibilityIssueDetail.severity

def blamed (holds : Bool) (severity : String) : List String := if holds then [severity] else []

section Conditions
variable (lower : String → String) (vm : VMSummary)

def suspended : Bool := decide (lower vm.powerState = "suspended")

def undetectedOs : Bool := (nonempty vm.guestOs).isNone

/- The hardware is missing, or the size is not positive. -/
def lacks (size : VMHardware → Int) : Bool :=
  match vm.hardware with
  | none => true
  | some hw => decide (size hw ≤ 0)

def lacksDisks : Bool :=
  match vm.hardware with
  | none => true
  | some hw => hw.disks.isEmpty

def bootsSecurely : Bool := decide (vm.secureBootEnabled = some true)

def ideController : Bool := (vm.diskControllerTypes.getD []).any (fun ctype => decide (lower ctype = "ide"))

/- How many of the critical conditions hold. -/
def criticals : Nat :=
  [suspended lower vm, unsupportedOs lower vm, lacks vm VMHardware.cpuCount, lacks vm VMHardware.memoryMb].count true

/- How many of the conditions of high severity hold. -/
def highs : Nat := [undetectedOs vm, lacksDisks vm, bootsSecurely vm, ideController lower vm].count true

/- What counts, as the checks come to it. -/
def verdicts : List String :=
  blamed (suspended lower vm) "critical" ++ (blamed (undetectedOs vm) "high" ++ blamed (unsupportedOs lower vm) "critical") ++
    blamed (lacks vm VMHardware.cpuCount) "critical" ++ blamed (lacks vm VMHardware.memoryMb) "critical" ++
    blamed (lacksDisks vm) "high" ++ blamed (bootsSecurely vm) "high" ++ blamed (ideController lower vm) "high"

end Conditions

section Weighing
variable {lower : String → String} {vm : VMSummary}

theorem weighed_append (issues others : List CompatibilityIssueDetail) :
    weighed (issues ++ others) = weighed issues ++ weighed others := by
  simp [weighed]

theorem weighed_flatMap {α : Type} (check : α → List CompatibilityIssueDetail) (found : List α) :
    weighed (found.flatMap check) = found.flatMap (fun one => weighed (check one)) := by
  induction found with
  | nil => rfl
  | cons one found ih => rw [List.flatMap_cons, List.flatMap_cons, weighed_append, ih]

theorem weighed_checkPowerState :
    weighed (checkPowerState lower vm) = blamed (suspended lower vm) "critical" := by
  by_cases state : lower vm.powerState = "suspended" <;> simp [checkPowerState, suspended, state, blamed, weighed]

theorem weighed_checkOsCompat :
    weighed (checkOsCompat lower vm) = blamed (undetectedOs vm) "high" ++ blamed (unsupportedOs lower vm) "critical" := by
  cases os : nonempty vm.guestOs with
  | none => simp [checkOsCompat, undetectedOs, unsupportedOs, os, blamed, weighed]
  | some guestOs =>
    simp only [checkOsCompat, undetectedOs, unsupportedOs, os, Option.isNone_some]
    split
    · rename_i unsupported
      rw [unsupported]
      rfl
    · rename_i supported
      rw [Bool.eq_false_iff.mpr supported]
      split <;> rfl

theorem weighed_checkSize (category none : String) (limit : Int) (large : Int → String) (size : VMHardware → Int) :
    weighed (checkSize category none limit large (vm.hardware.map size)) = blamed (lacks vm size) "critical" := by
  cases hardware : vm.hardware with
  | none => simp [checkSize, lacks, hardware, blamed, weighed]
  | some hw =>
    simp only [checkSize, lacks, hardware, Option.map_some]
    by_cases lacking : size hw ≤ 0
    · simp [lacking, blamed, weighed]
    · by_cases large : limit < size hw <;> simp [lacking, large, blamed, weighed]

theorem lacksDisks_eq : lacksDisks vm = vm.disks.isEmpty := by
  cases hardware : vm.hardware with
  | none => simp [lacksDisks, VMSummary.disks, hardware]
  | some hw => simp [lacksDisks, VMSummary.disks, hardware]

theorem weighed_checkDisk : weighed (checkDisk vm) = blamed (lacksDisks vm) "high" := by
  rw [lacksDisks_eq]
  unfold checkDisk
  split
  · rename_i bare
    rw [bare]
    rfl
  · rename_i some
    rw [Bool.eq_false_iff.mpr some]
    split <;> rfl

theorem weighed_checkNetwork : weighed (checkNetwork vm) = [] := by
  unfold checkNetwork
  split <;> rfl

theorem weighed_checkFirmware : weighed (checkFirmware lower vm) = [] := by
  unfold checkFirmware
  split
  · split <;> rfl
  · rfl

theorem weighed_checkSecureBoot : weighed (checkSecureBoot vm) = blamed (bootsSecurely vm) "high" := by
  by_cases secure : vm.secureBootEnabled = some true <;> simp [checkSecureBoot, bootsSecurely, secure, blamed, weighed]

theorem weighed_checkVmwareTools : weighed (checkVmwareTools lower vm) = [] := by
  unfold checkVmwareTools
  split
  · rfl
  · split <;> rfl

theorem weighed_controllerIssues (ctype : String) :
    weighed (controllerIssues lower ctype) = blamed (decide (lower ctype = "ide")) "high" := by
  unfold controllerIssues
  split
  · rename_i ide
    simp [ide, blamed, weighed]
  · rename_i other
    rw [decide_eq_false other]
    split
    · rfl
    · split <;> rfl

theorem weighed_nicIssues (ntype : String) : weighed (nicIssues ntype) = [] := by
  unfold nicIssues
  split
  · rfl
  · split
    · rfl
    · split
      · rfl
      · split <;> rfl

/-- One kind among distinct ones is met once. -/
theorem flatMap_blamed {kinds : List String} (distinct : kinds.Nodup) (kind severity : String) :
    kinds.flatMap (fun k => blamed (decide (k = kind)) severity) = blamed (decide (kind ∈ kinds)) severity := by
  induction kinds with
  | nil => rfl
  | cons k kinds ih =>
    obtain ⟨fresh, rest⟩ := List.nodup_cons.mp distinct
    rw [List.flatMap_cons, ih rest]
    by_cases same : k = kind
    · subst same
      simp [blamed, fresh]
    · simp [blamed, same, Ne.symm same]

theorem weighed_checkDiskControllers :
    weighed (checkDiskControllers lower vm) = blamed (ideController lower vm) "high" := by
  have kinds : weighed (checkDiskControllers lower vm) =
      ((FirstSeen.unique lower (vm.diskControllerTypes.getD [])).map lower).flatMap
        (fun kind => blamed (decide (kind = "ide")) "high") := by
    rw [checkDiskControllers, weighed_flatMap, List.flatMap_map]
    exact congrArg (List.flatMap · _) (funext weighed_controllerIssues)
  have found : decide ("ide" ∈ (FirstSeen.unique lower (vm.diskControllerTypes.getD [])).map lower) =
      ideController lower vm := by
    rw [ideController, Bool.eq_iff_iff, decide_eq_true_eq, FirstSeen.mem_keys_unique, List.mem_map]
    simp only [List.any_eq_true, decide_eq_true_eq]
  rw [kinds, flatMap_blamed (FirstSeen.nodup_keys_unique lower _), found]

theorem weighed_checkNicTypes : weighed (checkNicTypes vm) = [] := by
  simp [checkNicTypes, weighed_flatMap, weighed_nicIssues]

/-- Nothing but the eight conditions counts, and each of them counts once. -/
theorem weighed_compatibilityIssues : weighed (compatibilityIssues lower vm) = verdicts lower vm := by
  simp only [compatibilityIssues, weighed_append, weighed_checkPowerState, weighed_checkOsCompat, checkCpu,
    checkMemory, weighed_checkSize, weighed_checkDisk, weighed_checkNetwork, weighed_checkFirmware,
    weighed_checkSecureBoot, weighed_checkVmwareTools, weighed_checkDiskControllers, weighed_checkNicTypes,
    List.append_nil, verdicts]

theorem count_blamed (holds : Bool) (severity : String) : (blamed holds severity).count severity = [holds].count true := by
  cases holds <;> simp [blamed]

theorem count_blamed_other (holds : Bool) {severity other : String} (ne : severity ≠ other) :
    (blamed holds severity).count other = 0 := by
  cases holds <;> simp [blamed, ne]

theorem count_critical : (verdicts lower vm).count "critical" = criticals lower vm := by
  have apart (holds : Bool) : (blamed holds "high").count "critical" = 0 := count_blamed_other holds (by decide)
  simp only [verdicts, criticals, List.count_append, count_blamed, apart, List.count_cons, List.count_nil]
  omega

theorem count_high : (verdicts lower vm).count "high" = highs lower vm := by
  have apart (holds : Bool) : (blamed holds "critical").count "high" = 0 := count_blamed_other holds (by decide)
  simp only [verdicts, highs, List.count_append, count_blamed, apart, List.count_cons, List.count_nil]
  omega

theorem mem_verdicts {severity : String} (member : severity ∈ verdicts lower vm) :
    severity = "critical" ∨ severity = "high" := by
  have one {holds : Bool} {own : String} (inside : severity ∈ blamed holds own) : severity = own := by
    cases holds <;> simp_all [blamed]
  simp only [verdicts, List.mem_append] at member
  obtain ((((((inside | inside | inside) | inside) | inside) | inside) | inside) | inside) := member
  · exact .inl (one inside)
  · exact .inr (one inside)
  · exact .inl (one inside)
  · exact .inl (one inside)
  · exact .inl (one inside)
  · exact .inr (one inside)
  · exact .inr (one inside)
  · exact .inr (one inside)

end Weighing

section Scoring
variable {F : Type} {ar : Arithmetic F}

/- The score, once an issue of that severity has counted. -/
def deduct (ar : Arithmetic F) (score : F) (severity : String) : F :=
  ar.max (ar.lit 0) (ar.add score (ar.lit (scoreWeight severity)))

theorem scoreOf_eq (issues : List CompatibilityIssueDetail) :
    scoreOf ar issues = (weighed issues).foldl (deduct ar) (ar.lit 1) := by
  rw [weighed, List.foldl_map, List.foldl_filter]
  unfold scoreOf deduct
  congr 1
  funext score issue
  cases issue.compatible <;> rfl

theorem any_critical (issues : List CompatibilityIssueDetail) :
    issues.any CompatibilityIssueDetail.critical = decide ("critical" ∈ weighed issues) := by
  rw [Bool.eq_iff_iff, List.any_eq_true, decide_eq_true_eq, weighed, List.mem_map]
  constructor
  · rintro ⟨issue, member, critical⟩
    obtain ⟨severity, counts⟩ := Bool.and_eq_true_iff.mp critical
    exact ⟨issue, List.mem_filter.mpr ⟨member, counts⟩, of_decide_eq_true severity⟩
  · rintro ⟨issue, kept, severity⟩
    obtain ⟨member, counts⟩ := List.mem_filter.mp kept
    exact ⟨issue, member, Bool.and_eq_true_iff.mpr ⟨decide_eq_true severity, counts⟩⟩

/-- The verdict depends on the severities that count, and on nothing else. -/
theorem evaluate_verdict (ar : Arithmetic F) (lower : String → String) (vm : VMSummary) :
    (evaluate ar lower vm).score = ar.round ((verdicts lower vm).foldl (deduct ar) (ar.lit 1)) 2 ∧
    (evaluate ar lower vm).compatible =
      (ar.ge ((verdicts lower vm).foldl (deduct ar) (ar.lit 1)) (ar.lit (1 / 2)) &&
        !decide ("critical" ∈ verdicts lower vm)) := by
  rw [← weighed_compatibilityIssues, ← scoreOf_eq, ← any_critical]
  exact ⟨rfl, rfl⟩

end Scoring

section Exactly
variable {lower : String → String} {vm : VMSummary}

/- What an issue that counts takes from the score, in tenths. -/
def tenths (severity : String) : Nat := if severity = "critical" then 3 else 2

/-- One deduction, stopped at zero. -/
theorem deduct_tenths {severity : String} (graded : severity = "critical" ∨ severity = "high") (k : Nat) :
    deduct .rational (k / 10 : ℚ) severity = ((k - tenths severity : Nat) : ℚ) / 10 := by
  have weight : scoreWeight severity = -(tenths severity : ℚ) / 10 := by
    obtain rfl | rfl := graded
    · norm_num [scoreWeight, tenths]
    · have apart : ("high" == "critical") = false := by decide
      have other : ¬ "high" = "critical" := by decide
      norm_num [scoreWeight, tenths, List.lookup, apart, other]
  have sum : (k : ℚ) / 10 + scoreWeight severity = ((k : ℚ) - tenths severity) / 10 := by
    rw [weight]
    ring
  simp only [deduct, Arithmetic.max, Arithmetic.rational, sum, decide_eq_true_eq]
  obtain more | less := lt_or_ge (tenths severity) k
  · have positive : (0 : ℚ) < ((k : ℚ) - tenths severity) / 10 := by
      have cast : (tenths severity : ℚ) < k := by exact_mod_cast more
      linarith
    rw [if_pos positive, Nat.cast_sub more.le]
  · have stopped : ¬ (0 : ℚ) < ((k : ℚ) - tenths severity) / 10 := by
      have cast : (k : ℚ) ≤ tenths severity := by exact_mod_cast less
      linarith
    rw [if_neg stopped, Nat.sub_eq_zero_of_le less]
    norm_num

theorem foldl_tenths {severities : List String} (graded : ∀ s ∈ severities, s = "critical" ∨ s = "high") (k : Nat) :
    severities.foldl (deduct .rational) (k / 10 : ℚ) =
      ((k - (3 * severities.count "critical" + 2 * severities.count "high") : Nat) : ℚ) / 10 := by
  induction severities generalizing k with
  | nil => simp
  | cons severity severities ih =>
    rw [List.foldl_cons, deduct_tenths (graded severity List.mem_cons_self),
      ih (fun s later => graded s (List.mem_cons_of_mem _ later))]
    obtain rfl | rfl := graded severity List.mem_cons_self
    · have left : k - 3 - (3 * severities.count "critical" + 2 * severities.count "high") =
          k - (3 * (severities.count "critical" + 1) + 2 * severities.count "high") := by omega
      simp [tenths, left]
    · have left : k - 2 - (3 * severities.count "critical" + 2 * severities.count "high") =
          k - (3 * severities.count "critical" + 2 * (severities.count "high" + 1)) := by omega
      simp [tenths, left]

theorem round_tenths (k : Nat) : Arithmetic.rational.round (k / 10 : ℚ) 2 = (k : ℚ) / 10 := by
  have floor : ⌊(k / 10 : ℚ) * 10 ^ 2 + 1 / 2⌋ = (10 * k : ℤ) := by
    rw [Int.floor_eq_iff]
    push_cast
    constructor <;> linarith
  simp only [Arithmetic.rational, Arithmetic.decimals, floor]
  have natural : ((10 * k : ℤ).toNat : ℚ) = 10 * k := by
    rw [show (10 * k : ℤ) = ((10 * k : Nat) : ℤ) by push_cast; rfl, Int.toNat_natCast]
    push_cast
    rfl
  rw [natural]
  ring

theorem score_tenths : (verdicts lower vm).foldl (deduct .rational) (Arithmetic.rational.lit 1) =
    ((10 - (3 * criticals lower vm + 2 * highs lower vm) : Nat) : ℚ) / 10 := by
  have one : Arithmetic.rational.lit 1 = ((10 : Nat) : ℚ) / 10 := by norm_num [Arithmetic.rational]
  rw [one, foldl_tenths (fun s member => mem_verdicts member), count_critical, count_high]

/-- The verdict in closed form: four conditions take three tenths each and four take two
tenths, and a VM is compatible if none of the first and at most two of the second hold. -/
theorem verdict_closed_form (lower : String → String) (vm : VMSummary) :
    (evaluate .rational lower vm).score =
      max 0 (1 - 3 / 10 * (criticals lower vm : ℚ) - 2 / 10 * (highs lower vm : ℚ)) ∧
    ((evaluate .rational lower vm).compatible = true ↔ criticals lower vm = 0 ∧ highs lower vm ≤ 2) := by
  obtain ⟨score, compatible⟩ := evaluate_verdict .rational lower vm
  rw [score_tenths] at score compatible
  constructor
  · rw [score, round_tenths]
    obtain more | less := le_total (3 * criticals lower vm + 2 * highs lower vm) 10
    · have cast : (3 * criticals lower vm + 2 * highs lower vm : ℚ) ≤ 10 := by exact_mod_cast more
      rw [max_eq_right (by linarith), Nat.cast_sub more]
      push_cast
      ring
    · have cast : (10 : ℚ) ≤ 3 * criticals lower vm + 2 * highs lower vm := by exact_mod_cast less
      rw [max_eq_left (by linarith), Nat.sub_eq_zero_of_le less]
      norm_num
  · have none : "critical" ∈ verdicts lower vm ↔ criticals lower vm ≠ 0 := by
      rw [← count_critical, ← List.count_pos_iff, Nat.pos_iff_ne_zero]
    have enough : Arithmetic.rational.ge (((10 - (3 * criticals lower vm + 2 * highs lower vm) : Nat) : ℚ) / 10)
        (Arithmetic.rational.lit (1 / 2)) = true ↔ 5 ≤ 10 - (3 * criticals lower vm + 2 * highs lower vm) := by
      simp only [Arithmetic.ge, Arithmetic.rational, Bool.not_eq_true', decide_eq_false_iff_not, not_lt]
      rw [div_le_div_iff₀ (by norm_num) (by norm_num), ← Nat.cast_le (α := ℚ)]
      push_cast
      constructor <;> intro half <;> linarith
    rw [compatible, Bool.and_eq_true, enough, Bool.not_eq_true', decide_eq_false_iff_not, none, not_not]
    omega

end Exactly

/- Of an issue, all but its text. -/
def CompatibilityIssueDetail.triple (issue : CompatibilityIssueDetail) : String × String × Bool :=
  (issue.severity, issue.category, issue.compatible)

/- Two VMs that differ in the order and repetition of their devices only: their controllers
are of the same types up to case, and their network cards are of the same types. -/
structure SameDevices (lower : String → String) (vm other : VMSummary) : Prop where
  rest : other = { vm with hardware := other.hardware, diskControllerTypes := other.diskControllerTypes }
  hardware : other.hardware = vm.hardware.map (fun hw => { hw with nics := other.nics })
  controllers : ∀ kind, kind ∈ (vm.diskControllerTypes.getD []).map lower ↔
    kind ∈ (other.diskControllerTypes.getD []).map lower
  nicTypes : ∀ ntype : String, some ntype ∈ vm.nics.map VMNic.nicType ↔ some ntype ∈ other.nics.map VMNic.nicType
  nics : vm.nics.isEmpty = other.nics.isEmpty

section Devices
variable {lower : String → String} {vm other : VMSummary}

theorem SameDevices.ide (same : SameDevices lower vm other) : ideController lower other = ideController lower vm := by
  have kinds (summary : VMSummary) :
      ideController lower summary = true ↔ "ide" ∈ (summary.diskControllerTypes.getD []).map lower := by
    simp only [ideController, List.any_eq_true, List.mem_map, decide_eq_true_eq]
  rw [Bool.eq_iff_iff, kinds, kinds, same.controllers]

theorem SameDevices.lacks (same : SameDevices lower vm other) (size : VMHardware → Int)
    (kept : ∀ hw nics, size { hw with nics := nics } = size hw) : lacks other size = lacks vm size := by
  cases hardware : vm.hardware with
  | none => simp [VMware.lacks, same.hardware, hardware]
  | some hw => simp [VMware.lacks, same.hardware, hardware, kept]

theorem SameDevices.disks (same : SameDevices lower vm other) : other.disks = vm.disks := by
  cases hardware : vm.hardware with
  | none => simp [VMSummary.disks, same.hardware, hardware]
  | some hw => simp [VMSummary.disks, same.hardware, hardware]

theorem SameDevices.verdicts (same : SameDevices lower vm other) : verdicts lower other = verdicts lower vm := by
  have sameState : suspended lower other = suspended lower vm := by rw [same.rest]; rfl
  have sameOs : undetectedOs other = undetectedOs vm := by rw [same.rest]; rfl
  have sameSupport : unsupportedOs lower other = unsupportedOs lower vm := by rw [same.rest]; rfl
  have sameBoot : bootsSecurely other = bootsSecurely vm := by rw [same.rest]; rfl
  have sameDisks : lacksDisks other = lacksDisks vm := by rw [lacksDisks_eq, lacksDisks_eq, same.disks]
  simp only [VMware.verdicts, sameState, sameOs, sameSupport, sameBoot, sameDisks, same.ide,
    same.lacks VMHardware.cpuCount (fun _ _ => rfl), same.lacks VMHardware.memoryMb (fun _ _ => rfl)]

theorem triple_controllerIssues (ctype : String) : (controllerIssues lower ctype).map CompatibilityIssueDetail.triple =
    (controllerIssues id (lower ctype)).map CompatibilityIssueDetail.triple := by
  unfold controllerIssues
  simp only [id]
  split
  · rfl
  · split
    · rfl
    · split <;> rfl

/-- Each type of controller, up to case, raises its issues once. -/
theorem SameDevices.controllerIssues (same : SameDevices lower vm other) :
    ((checkDiskControllers lower vm).map CompatibilityIssueDetail.triple).Perm
      ((checkDiskControllers lower other).map CompatibilityIssueDetail.triple) := by
  have kinds (summary : VMSummary) : (checkDiskControllers lower summary).map CompatibilityIssueDetail.triple =
      ((FirstSeen.unique lower (summary.diskControllerTypes.getD [])).map lower).flatMap
        (fun kind => (VMware.controllerIssues id kind).map CompatibilityIssueDetail.triple) := by
    rw [checkDiskControllers, List.map_flatMap, List.flatMap_map]
    exact congrArg (List.flatMap · _) (funext triple_controllerIssues)
  rw [kinds, kinds]
  exact (FirstSeen.keys_unique_perm lower same.controllers).flatMap_right _

/-- Each type of network card raises its issues once. -/
theorem SameDevices.nicIssues (same : SameDevices lower vm other) :
    ((checkNicTypes vm).map CompatibilityIssueDetail.triple).Perm
      ((checkNicTypes other).map CompatibilityIssueDetail.triple) := by
  have named (summary : VMSummary) (ntype : String) :
      ntype ∈ summary.nics.filterMap (fun nic => nonempty nic.nicType) ↔
        some ntype ∈ summary.nics.map VMNic.nicType ∧ ntype ≠ "" := by
    simp only [List.mem_filterMap, List.mem_map, nonempty_eq_some]
    constructor
    · rintro ⟨nic, member, own, filled⟩
      exact ⟨⟨nic, member, own⟩, filled⟩
    · rintro ⟨⟨nic, member, own⟩, filled⟩
      exact ⟨nic, member, own, filled⟩
  have types : ∀ ntype, ntype ∈ (vm.nics.filterMap (fun nic => nonempty nic.nicType)).map id ↔
      ntype ∈ (other.nics.filterMap (fun nic => nonempty nic.nicType)).map id := by
    intro ntype
    rw [List.map_id, List.map_id, named, named, same.nicTypes]
  have kept := FirstSeen.keys_unique_perm id types
  rw [List.map_id, List.map_id] at kept
  rw [checkNicTypes, checkNicTypes, List.map_flatMap, List.map_flatMap]
  exact kept.flatMap_right _

/-- The verdict and the kinds of issues do not depend on the order in which the devices of a VM
are listed, nor on how often one of a kind is. -/
theorem devices_order_irrelevant {F : Type} (ar : Arithmetic F) (same : SameDevices lower vm other) :
    (evaluate ar lower other).score = (evaluate ar lower vm).score ∧
    (evaluate ar lower other).compatible = (evaluate ar lower vm).compatible ∧
    ((evaluate ar lower vm).issues.map CompatibilityIssueDetail.triple).Perm
      ((evaluate ar lower other).issues.map CompatibilityIssueDetail.triple) := by
  obtain ⟨score, compatible⟩ := evaluate_verdict ar lower vm
  obtain ⟨otherScore, otherCompatible⟩ := evaluate_verdict ar lower other
  rw [same.verdicts] at otherScore otherCompatible
  refine ⟨otherScore.trans score.symm, otherCompatible.trans compatible.symm, ?_⟩
  have sameState : checkPowerState lower other = checkPowerState lower vm := by rw [same.rest]; rfl
  have sameOs : checkOsCompat lower other = checkOsCompat lower vm := by rw [same.rest]; rfl
  have sameCpu : checkCpu other = checkCpu vm := by
    rw [checkCpu, checkCpu, same.hardware, Option.map_map]
    rfl
  have sameMemory : checkMemory other = checkMemory vm := by
    rw [checkMemory, checkMemory, same.hardware, Option.map_map]
    rfl
  have sameTotal : other.totalDisk = vm.totalDisk := by rw [VMSummary.totalDisk, VMSummary.totalDisk, same.disks]
  have sameDisk : checkDisk other = checkDisk vm := by rw [checkDisk, checkDisk, same.disks, sameTotal]
  have sameNetwork : checkNetwork other = checkNetwork vm := by rw [checkNetwork, checkNetwork, same.nics]
  have sameFirmware : checkFirmware lower other = checkFirmware lower vm := by rw [same.rest]; rfl
  have sameBoot : checkSecureBoot other = checkSecureBoot vm := by rw [same.rest]; rfl
  have sameTools : checkVmwareTools lower other = checkVmwareTools lower vm := by rw [same.rest]; rfl
  change ((compatibilityIssues lower vm).map _).Perm ((compatibilityIssues lower other).map _)
  simp only [compatibilityIssues, sameState, sameOs, sameCpu, sameMemory, sameDisk, sameNetwork, sameFirmware, sameBoot,
    sameTools, List.map_append]
  exact ((List.Perm.refl _).append same.controllerIssues).append same.nicIssues

end Devices

/- A VM with the given controllers and types of network cards. -/
def equipped (controllers : List String) (cards : List String) : VMSummary where
  id := "vm-1"
  name := "web01"
  powerState := "poweredOn"
  guestOs := some "Ubuntu Linux (64-bit)"
  hardware := some ⟨2, 1, 4096, [⟨"Hard disk 1", 40, true, none, none⟩],
    cards.map (fun card => ⟨"Network adapter", "VM Network", none, [], some card⟩)⟩
  clusterName := none
  datastores := []
  tags := []
  annotation := none
  firmware := some "bios"
  secureBootEnabled := some false
  vmwareToolsStatus := none
  diskControllerTypes := some controllers

theorem repeated_ide_counts_once :
    (evaluate .rational String.toLower (equipped ["scsi", "IDE", "ide"] ["e1000", "vmxnet3", "e1000"])).score =
      (evaluate .rational String.toLower (equipped ["ide", "scsi"] ["vmxnet3", "e1000"])).score := by
  have same : SameDevices String.toLower (equipped ["ide", "scsi"] ["vmxnet3", "e1000"])
      (equipped ["scsi", "IDE", "ide"] ["e1000", "vmxnet3", "e1000"]) := by
    refine ⟨rfl, rfl, fun kind => ?_, fun ntype => ?_, rfl⟩
    · have first : ["ide", "scsi"].map String.toLower = ["ide", "scsi"] := by decide +kernel
      have second : ["scsi", "IDE", "ide"].map String.toLower = ["scsi", "ide", "ide"] := by decide +kernel
      simp only [equipped, Option.getD_some, first, second, List.mem_cons, List.not_mem_nil]
      tauto
    · simp only [equipped, VMSummary.nics, Option.map_some, Option.getD_some, List.map_cons, List.map_nil,
        List.mem_cons, List.not_mem_nil]
      tauto
  exact (devices_order_irrelevant .rational same).1

end VMachine.VMware
