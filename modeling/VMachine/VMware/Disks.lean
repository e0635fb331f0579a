import VMachine.VMware.Inventory

/-! What becomes of a VM's disks on the way to its summary. The extraction lists the files
of the layout and then the disk devices, and keeps the first entry of each name. The layout
gates the whole extraction, and its entries carry no capacity. -/
namespace VMachine.VMware
open Py

/- The VirtualDisk devices, in device order. -/
def VirtualMachine.virtualDisks (vm : VirtualMachine) : List Device :=
  vm.devices.filter (fun dev => dev.kind = .virtualDisk)

/- Every file that the layout names, in order. -/
def VirtualMachine.diskFiles (vm : VirtualMachine) : List String :=
  vm.diskLayouts.flatMap (fun files => files.toOption.getD [])

/- The entries of disk devices that follow `count` entries. -/
def deviceEntries (count : Nat) : List Device → List DiskEntry
  | [] => []
  | dev :: devs => deviceEntry count dev :: deviceEntries (count + 1) devs

section Extraction

theorem appendFiles_eq (disks : List DiskEntry) (layouts : List (Attr (List String))) :
    appendFiles disks layouts =
      disks ++ (layouts.flatMap (fun files => files.toOption.getD [])).map fileEntry := by
  induction layouts generalizing disks with
  | nil => simp [appendFiles]
  | cons files layouts ih => simp [appendFiles, ih]

theorem appendDevices_eq (disks : List DiskEntry) (devs : List Device) :
    appendDevices disks devs =
      disks ++ deviceEntries disks.length (devs.filter (fun dev => dev.kind = .virtualDisk)) := by
  induction devs generalizing disks with
  | nil => simp [appendDevices, deviceEntries]
  | cons dev devs ih =>
    cases kind : dev.kind with
    | virtualDisk => simp [appendDevices, kind, ih, deviceEntries]
    | ethernet card => simp [appendDevices, kind, ih]
    | scsi paravirtual => simp [appendDevices, kind, ih]
    | ahci => simp [appendDevices, kind, ih]
    | nvme => simp [appendDevices, kind, ih]
    | ide => simp [appendDevices, kind, ih]
    | other => simp [appendDevices, kind, ih]

theorem extractVmDisks_bare {vm : VirtualMachine} (bare : vm.diskLayouts = []) :
    extractVmDisks vm = [] := by
  simp [extractVmDisks, bare]

theorem extractVmDisks_eq {vm : VirtualMachine} (laid : vm.diskLayouts ≠ []) :
    extractVmDisks vm = FirstSeen.unique DiskEntry.diskFile
      (vm.diskFiles.map fileEntry ++ deviceEntries vm.diskFiles.length vm.virtualDisks) := by
  have gate : vm.diskLayouts.isEmpty = false := by simpa using laid
  simp only [extractVmDisks, gate, appendFiles_eq, appendDevices_eq, List.nil_append,
    List.length_map]
  rfl

theorem deviceEntries_capacity (count : Nat) (devs : List Device) :
    (deviceEntries count devs).map DiskEntry.capacityGb = devs.map Device.capacityGb := by
  induction devs generalizing count with
  | nil => rfl
  | cons dev devs ih => simp [deviceEntries, deviceEntry, ih]

end Extraction

/- The names of the disk devices, in device order: the label, or the name made up from the
position, which counts the files before it too. -/
def VirtualMachine.diskNames (vm : VirtualMachine) : List String :=
  vm.virtualDisks.mapIdx (fun i dev =>
    dev.givenLabel.getD ("Hard disk " ++ toString (vm.diskFiles.length + i + 1)))

/- A size that is reported. Zero stands for none. -/
def reported (size : Attr Int) : List Int := size.toOption.toList.filter (· ≠ 0)

/- Every size of a disk that vCenter reports, in bytes. -/
def Device.sizes (dev : Device) : List Int :=
  (reported dev.capacityInKB).map (1024 * ·) ++ reported dev.capacityInBytes

def Device.size (dev : Device) : Int := dev.sizes.headD 0

/- So many gigabytes are the capacity of the disk, by every report there is of it. -/
def Device.Holds (dev : Device) (gb : Int) : Prop :=
  (∀ size ∈ dev.sizes, gb * 1024 ^ 3 = size) ∧ (dev.sizes = [] → gb = 0)

/- The reports agree on a whole number of gigabytes. -/
def Device.Whole (dev : Device) : Prop :=
  ∀ size ∈ dev.sizes, 1024 ^ 3 ∣ size ∧ size = dev.size

/- VMHardware accepts no None among the three sizes. -/
def VirtualMachine.sized (vm : VirtualMachine) : Bool :=
  match vm.hardware with
  | some hw => hw.numCPU != .unset && hw.numCoresPerSocket != .unset && hw.memoryMB != .unset
  | none => true

/- One disk for each device, in order, under its name and with its capacity, and their total. -/
def DisksFaithful (lower : String → String) (vm : VirtualMachine) : Prop :=
  ∃ summary, buildVmSummary lower vm = .ok summary ∧
    summary.disks.map VMDisk.label = vm.diskNames ∧
    List.Forall₂ (fun disk dev => dev.Holds disk.capacityGb) summary.disks vm.virtualDisks ∧
    summary.totalDisk * 1024 ^ 3 = (vm.virtualDisks.map Device.size).sum

section Summary

/-- None among the sizes is the only way to fail. -/
theorem vmHardware_cases (cpus cores memory : Option Int) (disks : List VMDisk) (nics : List VMNic) :
    (cpus.isSome = true ∧ cores.isSome = true ∧ memory.isSome = true ∧
      ∃ hw, vmHardware cpus cores memory disks nics = .ok hw ∧ hw.disks = disks) ∨
    (¬ (cpus.isSome = true ∧ cores.isSome = true ∧ memory.isSome = true) ∧
      ∃ e, vmHardware cpus cores memory disks nics = .error e) := by
  cases cpus <;> cases cores <;> cases memory <;> simp [vmHardware]

theorem attr_getD_isSome (attr : Attr Int) (default : Int) :
    (attr.getD default).isSome = (attr != .unset) := by
  cases attr <;> rfl

theorem sized_iff (lower : String → String) (vm : VirtualMachine) : vm.sized = true ↔
    (getVmDetail lower vm).cpuCount.isSome = true ∧
    (getVmDetail lower vm).cpuCoresPerSocket.isSome = true ∧
    (getVmDetail lower vm).memoryMb.isSome = true := by
  cases found : vm.hardware with
  | none => simp [VirtualMachine.sized, getVmDetail, found]
  | some hw => simp [VirtualMachine.sized, getVmDetail, found, attr_getD_isSome, and_assoc]

/-- The summary exists exactly when the hardware reports its sizes, and then it lists the
extracted disks. -/
theorem buildVmSummary_cases (lower : String → String) (vm : VirtualMachine) :
    (vm.sized = true ∧ ∃ summary, buildVmSummary lower vm = .ok summary ∧
      summary.disks = (extractVmDisks vm).map vmDisk) ∨
    (vm.sized = false ∧ ∃ e, buildVmSummary lower vm = .error e) := by
  cases vmHardware_cases (getVmDetail lower vm).cpuCount (getVmDetail lower vm).cpuCoresPerSocket
      (getVmDetail lower vm).memoryMb ((extractVmDisks vm).map vmDisk) ((extractVmNics vm).map vmNic) with
  | inl accepted =>
    obtain ⟨cpus, cores, memory, hw, ok, disks⟩ := accepted
    refine .inl ⟨(sized_iff lower vm).mpr ⟨cpus, cores, memory⟩, vmSummary (getVmDetail lower vm) hw, ?_, disks⟩
    exact congrArg (Except.map (vmSummary (getVmDetail lower vm))) ok
  | inr refused =>
    obtain ⟨unsized, e, error⟩ := refused
    have none : vm.sized = false := by
      simpa using fun sized => unsized ((sized_iff lower vm).mp sized)
    exact .inr ⟨none, e, congrArg (Except.map (vmSummary (getVmDetail lower vm))) error⟩

end Summary

/- The layout does no harm: it is empty and there is no disk to lose, or the disk devices
have distinct names and the layout adds nothing to them, its files being at most the names
of leading devices that report no size. -/
def LayoutHarmless (vm : VirtualMachine) : Prop :=
  (vm.diskLayouts = [] ∧ vm.virtualDisks = []) ∨
  (vm.diskLayouts ≠ [] ∧ vm.diskNames.Nodup ∧ FirstSeen.unique id vm.diskFiles <+: vm.diskNames ∧
    ∀ dev ∈ vm.virtualDisks.take (FirstSeen.unique id vm.diskFiles).length, dev.sizes = [])

section Sizes
variable {dev : Device} {gb : Int}

theorem size_mem (sized : dev.sizes ≠ []) : dev.size ∈ dev.sizes := by
  obtain ⟨size, sizes, found⟩ := List.exists_cons_of_ne_nil sized
  simp [Device.size, found]

/-- The code rounds the first size that is reported down to whole gigabytes. -/
theorem capacityGb_eq (dev : Device) : dev.capacityGb = dev.size / 1024 ^ 3 := by
  have scale : ∀ c : Int, c / (1024 * 1024) = 1024 * c / 1024 ^ 3 := by omega
  have bytes : Device.capacityGb.bytes dev = (reported dev.capacityInBytes).headD 0 / 1024 ^ 3 := by
    cases found : dev.capacityInBytes with
    | value b => by_cases zero : b = 0 <;> simp [Device.capacityGb.bytes, reported, Attr.toOption, found, zero]
    | missing => simp [Device.capacityGb.bytes, reported, Attr.toOption, found]
    | unset => simp [Device.capacityGb.bytes, reported, Attr.toOption, found]
  cases found : dev.capacityInKB with
  | value c =>
    by_cases zero : c = 0
    · simpa [Device.capacityGb, Device.size, Device.sizes, reported, Attr.toOption, found, zero] using bytes
    · simpa [Device.capacityGb, Device.size, Device.sizes, reported, Attr.toOption, found, zero] using scale c
  | missing => simpa [Device.capacityGb, Device.size, Device.sizes, reported, Attr.toOption, found] using bytes
  | unset => simpa [Device.capacityGb, Device.size, Device.sizes, reported, Attr.toOption, found] using bytes

/-- What the code reads is the capacity exactly where rounding takes nothing away. -/
theorem holds_iff : dev.Holds gb ↔ dev.Whole ∧ gb = dev.capacityGb := by
  rw [capacityGb_eq]
  by_cases unsized : dev.sizes = []
  · simp [Device.Holds, Device.Whole, Device.size, unsized]
  · have first := size_mem unsized
    constructor
    · rintro ⟨holds, _⟩
      have here := holds dev.size first
      refine ⟨fun size listed => ?_, by omega⟩
      have there := holds size listed
      exact ⟨⟨gb, by omega⟩, by omega⟩
    · rintro ⟨whole, rfl⟩
      refine ⟨fun size listed => ?_, fun none => absurd none unsized⟩
      obtain ⟨whole, same⟩ := whole size listed
      rw [← same]
      exact Int.ediv_mul_cancel whole

theorem capacityGb_eq_zero_iff (whole : dev.Whole) : dev.capacityGb = 0 ↔ dev.sizes = [] := by
  constructor
  · intro zero
    by_contra sized
    have holds := (holds_iff.mpr ⟨whole, rfl⟩).1 dev.size (size_mem sized)
    have nonzero : dev.size ≠ 0 := by
      have listed := size_mem sized
      simp only [Device.sizes, reported, List.mem_append, List.mem_map, List.mem_filter, decide_eq_true_eq]
        at listed
      omega
    omega
  · intro unsized
    simp [capacityGb_eq, Device.size, unsized]

end Sizes

section Faithful
variable {vm : VirtualMachine}

/- A disk as a reader of the summary sees it. -/
def DiskEntry.named (d : DiskEntry) : String × Int := (d.diskFile, d.capacityGb)

def VMDisk.named (d : VMDisk) : String × Int := (d.label, d.capacityGb)

/- The entries of the devices, as the loop leaves them. -/
def VirtualMachine.listedDisks (vm : VirtualMachine) : List (String × Int) :=
  (deviceEntries vm.diskFiles.length vm.virtualDisks).map DiskEntry.named

theorem deviceEntries_names (count : Nat) (devs : List Device) :
    (deviceEntries count devs).map DiskEntry.diskFile =
      devs.mapIdx (fun i dev => dev.givenLabel.getD ("Hard disk " ++ toString (count + i + 1))) := by
  induction devs generalizing count with
  | nil => rfl
  | cons dev devs ih =>
    simp only [deviceEntries, List.map_cons, ih, List.mapIdx_cons]
    simp [deviceEntry, Device.diskLabel, Nat.add_comm, Nat.add_left_comm]

theorem listedDisks_names : vm.listedDisks.map Prod.fst = vm.diskNames := by
  have names := deviceEntries_names vm.diskFiles.length vm.virtualDisks
  simp only [VirtualMachine.listedDisks, List.map_map]
  exact names

theorem listedDisks_capacities : vm.listedDisks.map Prod.snd = vm.virtualDisks.map Device.capacityGb := by
  have capacities := deviceEntries_capacity vm.diskFiles.length vm.virtualDisks
  simp only [VirtualMachine.listedDisks, List.map_map]
  exact capacities

theorem listedDisks_eq_nil_iff : vm.listedDisks = [] ↔ vm.virtualDisks = [] := by
  cases found : vm.virtualDisks <;> simp [VirtualMachine.listedDisks, found, deviceEntries]

/-- Names are keys, so the deduplication can be read off the named disks alone. -/
theorem extractVmDisks_named (laid : vm.diskLayouts ≠ []) :
    (extractVmDisks vm).map DiskEntry.named =
      FirstSeen.unique Prod.fst (vm.diskFiles.map (fun file => (file, (0 : Int))) ++ vm.listedDisks) := by
  have mapped := FirstSeen.map_loop Prod.fst DiskEntry.named []
    (vm.diskFiles.map fileEntry ++ deviceEntries vm.diskFiles.length vm.virtualDisks)
  rw [List.map_append, List.map_map] at mapped
  rw [extractVmDisks_eq laid]
  exact mapped

/-- A prefix of entries without a size: the names are a prefix, and the sizes there are zero. -/
theorem zeros_prefix_iff {names : List String} {disks : List (String × Int)} :
    names.map (fun name => (name, 0)) <+: disks ↔
      names <+: disks.map Prod.fst ∧ ∀ size ∈ (disks.map Prod.snd).take names.length, size = 0 := by
  induction names generalizing disks with
  | nil => simp
  | cons name names ih =>
    cases disks with
    | nil => simp
    | cons disk disks =>
      obtain ⟨label, size⟩ := disk
      simp only [List.map_cons, List.cons_prefix_cons, ih, List.length_cons, List.take_succ_cons,
        List.forall_mem_cons, Prod.mk.injEq]
      constructor
      · rintro ⟨⟨rfl, rfl⟩, names, zeros⟩
        exact ⟨⟨rfl, names⟩, rfl, zeros⟩
      · rintro ⟨⟨rfl, names⟩, rfl, zeros⟩
        exact ⟨⟨rfl, rfl⟩, names, zeros⟩

/-- Where rounding takes nothing away, the extraction lists the devices exactly when the
layout does no harm. -/
theorem extractVmDisks_named_iff (whole : ∀ dev ∈ vm.virtualDisks, dev.Whole) :
    (extractVmDisks vm).map DiskEntry.named = vm.listedDisks ↔ LayoutHarmless vm := by
  by_cases bare : vm.diskLayouts = []
  · simp only [extractVmDisks_bare bare, List.map_nil, LayoutHarmless, bare, ← listedDisks_eq_nil_iff,
      true_and, ne_eq, not_true_eq_false, false_and, or_false]
    exact eq_comm
  · have files := FirstSeen.map_loop Prod.fst (fun file : String => (file, (0 : Int))) [] vm.diskFiles
    have unsized : (∀ size ∈ (vm.listedDisks.map Prod.snd).take (FirstSeen.unique id vm.diskFiles).length,
        size = 0) ↔
        ∀ dev ∈ vm.virtualDisks.take (FirstSeen.unique id vm.diskFiles).length, dev.sizes = [] := by
      rw [listedDisks_capacities, ← List.map_take, List.forall_mem_map]
      exact forall₂_congr (fun dev listed => capacityGb_eq_zero_iff (whole dev (List.mem_of_mem_take listed)))
    rw [extractVmDisks_named bare, FirstSeen.unique_append_eq_iff, FirstSeen.unique, ← files]
    simp only [LayoutHarmless, bare, false_and, false_or, not_false_eq_true, ne_eq, true_and, ← unsized,
      ← listedDisks_names]
    exact and_congr_right (fun _ => zeros_prefix_iff)

/-- The capacities of the summary, when each is that of its device. -/
theorem holds_all_iff {disks : List VMDisk} {devs : List Device} :
    List.Forall₂ (fun disk dev => dev.Holds disk.capacityGb) disks devs ↔
      (∀ dev ∈ devs, dev.Whole) ∧ disks.map VMDisk.capacityGb = devs.map Device.capacityGb := by
  induction devs generalizing disks with
  | nil => cases disks <;> simp
  | cons dev devs ih =>
    cases disks with
    | nil => simp
    | cons disk disks =>
      rw [List.forall₂_cons, ih, holds_iff]
      simp only [List.forall_mem_cons, List.map_cons, List.cons.injEq]
      tauto

theorem total_size {disks : List VMDisk} {devs : List Device}
    (faithful : List.Forall₂ (fun disk dev => dev.Holds disk.capacityGb) disks devs) :
    (disks.map VMDisk.capacityGb).sum * 1024 ^ 3 = (devs.map Device.size).sum := by
  induction faithful with
  | nil => rfl
  | @cons disk dev disks devs holds rest ih =>
    have size : disk.capacityGb * 1024 ^ 3 = dev.size := by
      by_cases unsized : dev.sizes = []
      · simp [Device.size, unsized, holds.2 unsized]
      · exact holds.1 dev.size (size_mem unsized)
    simp only [List.map_cons, List.sum_cons, Int.add_mul, ih, size]

/-- The summary lists each disk device once, in order, with its name and capacity, exactly
when it can be built, the layout does no harm and every disk is a whole number of gigabytes. -/
theorem summary_disks_faithful_iff (lower : String → String) (vm : VirtualMachine) :
    DisksFaithful lower vm ↔
      vm.sized = true ∧ LayoutHarmless vm ∧ ∀ dev ∈ vm.virtualDisks, dev.Whole := by
  cases buildVmSummary_cases lower vm with
  | inl built =>
    obtain ⟨sized, summary, ok, disks⟩ := built
    have listed : summary.disks.map VMDisk.named = (extractVmDisks vm).map DiskEntry.named := by
      rw [disks, List.map_map]
      rfl
    constructor
    · rintro ⟨other, same, names, holds, _⟩
      cases ok.symm.trans same
      obtain ⟨whole, capacities⟩ := holds_all_iff.mp holds
      have named : summary.disks.map VMDisk.named = vm.listedDisks := by
        have left : (summary.disks.map VMDisk.named).map Prod.fst = vm.listedDisks.map Prod.fst := by
          rw [listedDisks_names, ← names, List.map_map]
          rfl
        have right : (summary.disks.map VMDisk.named).map Prod.snd = vm.listedDisks.map Prod.snd := by
          rw [listedDisks_capacities, ← capacities, List.map_map]
          rfl
        rw [← List.zip_unzip (summary.disks.map VMDisk.named), ← List.zip_unzip vm.listedDisks,
          List.unzip_eq_map, List.unzip_eq_map, left, right]
      exact ⟨sized, (extractVmDisks_named_iff whole).mp (listed ▸ named), whole⟩
    · rintro ⟨_, harmless, whole⟩
      have named := listed.trans ((extractVmDisks_named_iff whole).mpr harmless)
      have names : summary.disks.map VMDisk.label = vm.diskNames := by
        rw [← listedDisks_names, ← named, List.map_map]
        rfl
      have capacities : summary.disks.map VMDisk.capacityGb = vm.virtualDisks.map Device.capacityGb := by
        rw [← listedDisks_capacities, ← named, List.map_map]
        rfl
      have holds := holds_all_iff.mpr ⟨whole, capacities⟩
      exact ⟨summary, ok, names, holds, total_size holds⟩
  | inr refused =>
    obtain ⟨unsized, e, error⟩ := refused
    constructor
    · rintro ⟨summary, ok, _⟩
      rw [error] at ok
      contradiction
    · rintro ⟨sized, _⟩
      rw [unsized] at sized
      contradiction

end Faithful

/- An ordinary VM with one 40 GB disk: vCenter names the file and the device apart. -/
def webServer : VirtualMachine where
  moId := .value "vm-101"
  name := .value "web01"
  config := .value
    { hardware := .value
        { numCPU := .value 2
          numCoresPerSocket := .value 1
          memoryMB := .value 4096
          device := [{ kind := .virtualDisk, label := .value (.value "Hard disk 1")
                       capacityInKB := .value 41943040 }] } }
  layout := .value (.value [.value ["[datastore1] web01/web01.vmdk"]])

theorem summary_invents_disk : ¬ ∀ lower vm, DisksFaithful lower vm := by
  intro faithful
  obtain ⟨summary, ok, names, _⟩ := faithful String.toLower webServer
  cases ok
  have lengths := congrArg List.length names
  contradiction

end VMachine.VMware
