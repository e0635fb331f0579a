import VMachine.VMware.Disks

/-! The disk part of the mapping engine. The engine takes the summary's whole gigabytes as
they are; the rounding has been decided before, when the disk was extracted. -/
namespace VMachine.VMware
open Py

structure DiskMappingResult where
  vmDiskLabel : String
  vmDiskGb : Int
  openstackVolumeType : Option String
  openstackSizeGb : Int
  bootable : Bool
  deriving Repr, DecidableEq

def diskMapping (i : Nat) (disk : VMDisk) : DiskMappingResult where
  vmDiskLabel := disk.label
  vmDiskGb := disk.capacityGb
  openstackVolumeType := some (if disk.thinProvisioned then "ceph-rbd" else "ceph")
  openstackSizeGb := disk.capacityGb
  bootable := i == 0

def mapDisks (vm : VMSummary) : List DiskMappingResult := vm.disks.mapIdx diskMapping

/- The volume recommended for the i-th disk device: it stands where the extraction has kept
the entry of that device. -/
def ProducedFor (lower : String → String) (vm : VirtualMachine) (i : Nat) (dev : Device)
    (r : DiskMappingResult) : Prop :=
  vm.virtualDisks[i]? = some dev ∧ ∃ (summary : VMSummary) (j : Nat), buildVmSummary lower vm = .ok summary ∧
    (extractVmDisks vm)[j]? = some (deviceEntry (vm.diskFiles.length + i) dev) ∧
    (mapDisks summary)[j]? = some r

section Rounding
variable {lower : String → String} {vm : VirtualMachine} {i : Nat} {dev : Device} {r : DiskMappingResult}

theorem produced_size (produced : ProducedFor lower vm i dev r) : r.openstackSizeGb = dev.capacityGb := by
  obtain ⟨_, summary, j, ok, kept, mapped⟩ := produced
  cases buildVmSummary_cases lower vm with
  | inl built =>
    obtain ⟨_, other, same, disks⟩ := built
    cases ok.symm.trans same
    simp only [mapDisks, disks, List.getElem?_mapIdx, List.getElem?_map, kept, Option.map_some,
      Option.some.injEq] at mapped
    rw [← mapped]
    rfl
  | inr refused =>
    obtain ⟨_, e, error⟩ := refused
    rw [error] at ok
    contradiction

/-- Rounding down reaches the size again only from a multiple of the unit. -/
theorem le_floor_mul_iff {size unit : Int} (positive : 0 < unit) :
    size ≤ size / unit * unit ↔ unit ∣ size := by
  constructor
  · intro covered
    have below := Int.ediv_mul_le size (Int.ne_of_gt positive)
    have exact_quotient : size = unit * (size / unit) := by
      rw [Int.mul_comm]
      omega
    exact ⟨size / unit, exact_quotient⟩
  · intro whole
    exact Int.le_of_eq (Int.ediv_mul_cancel whole).symm

theorem capacityGb_kilobytes {c : Int} (size : dev.capacityInKB = .value c) (positive : 0 < c) :
    dev.capacityGb = c / 1048576 := by
  have set : c ≠ 0 := by omega
  simp [Device.capacityGb, size, set]

theorem capacityGb_bytes {b : Int} (absent : dev.capacityInKB.toOption.getD 0 = 0)
    (size : dev.capacityInBytes = .value b) (positive : 0 < b) : dev.capacityGb = b / 1024 ^ 3 := by
  have set : b ≠ 0 := by omega
  cases kilobytes : dev.capacityInKB with
  | missing => simp [Device.capacityGb, Device.capacityGb.bytes, kilobytes, size, set]
  | unset => simp [Device.capacityGb, Device.capacityGb.bytes, kilobytes, size, set]
  | value c =>
    rw [kilobytes] at absent
    have zero : c = 0 := absent
    simp [Device.capacityGb, Device.capacityGb.bytes, kilobytes, zero, size, set]

/-- The recommended volume holds the disk exactly when the disk is a whole number of
gigabytes: the engine announces a ceiling, but the size it is given has been rounded down. -/
theorem volume_covers_disk_iff (produced : ProducedFor lower vm i dev r) :
    (∀ c, dev.capacityInKB = .value c → 0 < c →
      (c ≤ r.openstackSizeGb * 1048576 ↔ 1048576 ∣ c)) ∧
    (∀ b, dev.capacityInKB.toOption.getD 0 = 0 → dev.capacityInBytes = .value b → 0 < b →
      (b ≤ r.openstackSizeGb * 1024 ^ 3 ↔ 1024 ^ 3 ∣ b)) := by
  rw [produced_size produced]
  constructor
  · intro c size positive
    rw [capacityGb_kilobytes size positive]
    exact le_floor_mul_iff (by decide)
  · intro b absent size positive
    rw [capacityGb_bytes absent size positive]
    exact le_floor_mul_iff (by decide)

end Rounding

/- The documented matching by ceiling. -/
def VolumesCoverDisks : Prop :=
  ∀ lower vm i dev r, ProducedFor lower vm i dev r →
    (∀ c, dev.capacityInKB = .value c → 0 < c → c ≤ r.openstackSizeGb * 1048576) ∧
    (∀ b, dev.capacityInKB.toOption.getD 0 = 0 → dev.capacityInBytes = .value b → 0 < b →
      b ≤ r.openstackSizeGb * 1024 ^ 3)

/- One disk of the given size, on a VM whose layout names one file. -/
def diskOf (kilobytes : Int) : Device :=
  { kind := .virtualDisk, label := .value (.value "Hard disk 1"), capacityInKB := .value kilobytes }

def machineWith (dev : Device) : VirtualMachine where
  config := .value { hardware := .value ⟨.value 1, .value 1, .value 1024, [dev]⟩ }
  layout := .value (.value [.value ["[datastore1] web01/web01.vmdk"]])

/-- The volume stands second, after the one for the layout file. -/
theorem volume_covers_forty_gigabytes :
    ProducedFor String.toLower (machineWith (diskOf 41943040)) 0 (diskOf 41943040)
      ⟨"Hard disk 1", 40, some "ceph", 40, false⟩ ∧ (41943040 : Int) ≤ 40 * 1048576 := by
  have produced : ProducedFor String.toLower (machineWith (diskOf 41943040)) 0 (diskOf 41943040)
      ⟨"Hard disk 1", 40, some "ceph", 40, false⟩ := ⟨rfl, _, 1, rfl, rfl, rfl⟩
  refine ⟨produced, ?_⟩
  apply ((volume_covers_disk_iff produced).1 41943040 rfl (by decide)).mpr
  decide

theorem volume_smaller_than_disk : ¬ VolumesCoverDisks := by
  intro cover
  have produced : ProducedFor String.toLower (machineWith (diskOf 1572864)) 0 (diskOf 1572864)
      ⟨"Hard disk 1", 1, some "ceph", 1, false⟩ := ⟨rfl, _, 1, rfl, rfl, rfl⟩
  have covered := (cover _ _ _ _ _ produced).1 1572864 rfl (by decide)
  contradiction

end VMachine.VMware
