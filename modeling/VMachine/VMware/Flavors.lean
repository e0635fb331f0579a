import VMachine.Lib.Argmin
import VMachine.VMware.ParallelAccounts

/-! Which flavor `_match_flavor` recommends: the first of the nearest complete flavors, where a
flavor that is too small counts as half as far again. It raises where a size is stated by no
flavor, or where floats end. -/
namespace VMachine.VMware
open Py Effects OpenStack

/- The flavors that state all three sizes, in the order of the catalog. -/
def complete (flavors : List OSFlavorSummary) : List SizedFlavor := flavors.filterMap OSFlavorSummary.sized

/- The largest size that is stated, or 1 if it is 0. -/
def Scale (sizes : List (Option Int)) (scale : Int) : Prop :=
  ∃ top, some top ∈ sizes ∧ (∀ size, some size ∈ sizes → size ≤ top) ∧ scale = if top = 0 then 1 else top

structure Scales where
  cpu : Int
  ram : Int
  disk : Int

structure Scales.Of (flavors : List OSFlavorSummary) (scales : Scales) : Prop where
  cpu : Scale (flavors.map OSFlavorSummary.vcpus) scales.cpu
  ram : Scale (flavors.map OSFlavorSummary.ram) scales.ram
  disk : Scale (flavors.map OSFlavorSummary.disk) scales.disk

section Distances
variable (target : Target) (scales : Scales) (f : SizedFlavor)

/- The sum under the root. -/
def deviation : ℚ :=
  4 / 10 * ((target.cpu - f.vcpus) / scales.cpu) ^ 2 + 4 / 10 * ((target.ram - f.ram) / scales.ram) ^ 2 +
    2 / 10 * ((target.disk - f.disk) / scales.disk) ^ 2

noncomputable def penalised : ℝ :=
  if f.vcpus < target.cpu ∨ f.ram < target.ram ∨ f.disk < target.disk then
    √(deviation target scales f) * (3 / 2 : ℚ)
  else √(deviation target scales f)

end Distances

section Scaling
variable {sizes : List (Option Int)}

theorem largest_ok {scale : Int} : largest sizes = .ok scale ↔ Scale sizes scale := by
  have stated (size : Int) : size ∈ sizes.filterMap id ↔ some size ∈ sizes := by simp
  unfold largest Scale
  cases found : (sizes.filterMap id).max? with
  | none =>
    rw [List.max?_eq_none_iff] at found
    simp only [reduceCtorEq, false_iff]
    rintro ⟨top, member, _⟩
    rw [← stated, found] at member
    contradiction
  | some top =>
    obtain ⟨member, greatest⟩ := List.max?_eq_some_iff.mp found
    simp only [Except.ok.injEq]
    constructor
    · rintro rfl
      exact ⟨top, (stated top).mp member, fun size inside => greatest size ((stated size).mpr inside), rfl⟩
    · rintro ⟨other, inside, most, rfl⟩
      have same : top = other := le_antisymm (most top ((stated top).mp member))
        (greatest other ((stated other).mpr inside))
      rw [same]

theorem largest_raises {exc : Exc} (raises : largest sizes = .error exc) : ∀ size, some size ∉ sizes := by
  intro size member
  unfold largest at raises
  split at raises
  · contradiction
  · rename_i none
    rw [List.max?_eq_none_iff] at none
    have inside : size ∈ sizes.filterMap id := by simpa using member
    rw [none] at inside
    contradiction

theorem scale_ne_zero {scale : Int} (is : Scale sizes scale) : scale ≠ 0 := by
  obtain ⟨top, _, _, rfl⟩ := is
  split
  · decide
  · assumption

theorem exists_scale {size : Int} (member : some size ∈ sizes) : ∃ scale, Scale sizes scale := by
  cases found : largest sizes with
  | ok scale => exact ⟨scale, largest_ok.mp found⟩
  | error exc => exact absurd member (largest_raises found size)

end Scaling

section Matching
variable {target : Target} {flavors : List OSFlavorSummary} {scales : Scales}

theorem mem_complete {f : SizedFlavor} : f ∈ complete flavors ↔
    f.flavor ∈ flavors ∧ f.flavor.vcpus = some f.vcpus ∧ f.flavor.ram = some f.ram ∧ f.flavor.disk = some f.disk := by
  have own (flavor : OSFlavorSummary) : flavor.sized = some f ↔
      flavor = f.flavor ∧ flavor.vcpus = some f.vcpus ∧ flavor.ram = some f.ram ∧ flavor.disk = some f.disk := by
    unfold OSFlavorSummary.sized
    split
    · rename_i vcpus ram disk h₁ h₂ h₃
      rw [h₁, h₂, h₃]
      simp only [Option.some.injEq]
      constructor
      · rintro rfl
        exact ⟨rfl, rfl, rfl, rfl⟩
      · rintro ⟨rfl, rfl, rfl, rfl⟩
        rfl
    · rename_i missing
      simp only [reduceCtorEq, false_iff]
      rintro ⟨rfl, h₁, h₂, h₃⟩
      exact missing _ _ _ h₁ h₂ h₃
  simp only [complete, List.mem_filterMap, own]
  constructor
  · rintro ⟨flavor, member, rfl, sizes⟩
    exact ⟨member, sizes⟩
  · rintro ⟨member, sizes⟩
    exact ⟨f.flavor, member, rfl, sizes⟩

/-- A catalog with a complete flavor states every size. -/
theorem exists_scales (some : complete flavors ≠ []) : ∃ scales, Scales.Of flavors scales := by
  obtain ⟨f, member⟩ := List.exists_mem_of_ne_nil _ some
  obtain ⟨inside, vcpus, ram, disk⟩ := mem_complete.mp member
  obtain ⟨cpuScale, cpu⟩ := exists_scale (vcpus ▸ List.mem_map_of_mem (f := OSFlavorSummary.vcpus) inside)
  obtain ⟨ramScale, ram⟩ := exists_scale (ram ▸ List.mem_map_of_mem (f := OSFlavorSummary.ram) inside)
  obtain ⟨diskScale, disk⟩ := exists_scale (disk ▸ List.mem_map_of_mem (f := OSFlavorSummary.disk) inside)
  exact ⟨⟨cpuScale, ramScale, diskScale⟩, cpu, ram, disk⟩

/-- Once the maxima are there, the loop decides. -/
theorem nearestFlavor_scaled {F : Type} (ar : Arithmetic F) (of : Scales.Of flavors scales) :
    nearestFlavor ar target flavors =
      .ok ((flavors.foldl (nearer ar (flavorDistance ar target scales.cpu scales.ram scales.disk)) none).map
        (fun (distance, flavor) => flavorMatch ar target distance flavor)) := by
  have some : flavors.isEmpty = false := by
    obtain ⟨top, member, _⟩ := of.cpu
    cases flavors with
    | nil => contradiction
    | cons flavor flavors => rfl
  unfold nearestFlavor
  rw [largest_ok.mpr of.cpu, largest_ok.mpr of.ram, largest_ok.mpr of.disk, some]
  rfl

/-- The loop over the catalog is a search for the least of the complete flavors, with any numbers
that are compared by their value. -/
theorem foldl_nearer {F K : Type} [LinearOrder K] {ar : Arithmetic F} {value : F → K}
    (compares : ∀ x y, ar.lt x y = true ↔ value x < value y) (distance : SizedFlavor → F)
    (flavors : List OSFlavorSummary) (best : Option SizedFlavor) :
    flavors.foldl (nearer ar distance) (best.map (fun f => (distance f, f))) =
      ((complete flavors).foldl (Argmin.better (fun f => value (distance f))) best).map
        (fun f => (distance f, f)) := by
  induction flavors generalizing best with
  | nil => rfl
  | cons flavor flavors ih =>
    cases sized : flavor.sized with
    | none =>
      have skipped : complete (flavor :: flavors) = complete flavors := by simp [complete, sized]
      rw [List.foldl_cons, skipped, ← ih]
      simp [nearer, sized]
    | some f =>
      have taken : complete (flavor :: flavors) = f :: complete flavors := by simp [complete, sized]
      rw [List.foldl_cons, taken, List.foldl_cons, ← ih]
      congr 1
      cases best with
      | none => simp [nearer, sized, Argmin.better]
      | some found =>
        simp only [nearer, sized, Option.map_some, Argmin.better, compares]
        split <;> rfl

/-- What is recommended is the first of the nearest complete flavors. -/
theorem nearestFlavor_first {F K : Type} [LinearOrder K] {ar : Arithmetic F} {value : F → K}
    (compares : ∀ x y, ar.lt x y = true ↔ value x < value y) (target : Target) (of : Scales.Of flavors scales)
    (some : complete flavors ≠ []) :
    ∃ best, Argmin.First (fun f => value (flavorDistance ar target scales.cpu scales.ram scales.disk f))
        (complete flavors) best ∧
      nearestFlavor ar target flavors = .ok (.some
        (flavorMatch ar target (flavorDistance ar target scales.cpu scales.ram scales.disk best) best)) := by
  have loop := foldl_nearer compares (flavorDistance ar target scales.cpu scales.ram scales.disk) flavors none
  rw [Option.map_none] at loop
  obtain ⟨none, _⟩ | ⟨best, found, first⟩ := Argmin.least_cases
    (fun f => value (flavorDistance ar target scales.cpu scales.ram scales.disk f)) (complete flavors)
  · exact absurd none some
  · refine ⟨best, first, ?_⟩
    rw [Argmin.least] at found
    rw [nearestFlavor_scaled ar of, loop, found]
    rfl

theorem flavorDistance_real (f : SizedFlavor) :
    flavorDistance .real target scales.cpu scales.ram scales.disk f = penalised target scales f := by
  have root : Arithmetic.real.sqrt (Arithmetic.real.add
      (Arithmetic.real.add (Arithmetic.real.mul (Arithmetic.real.lit (4 / 10))
          (Arithmetic.real.pow (Arithmetic.real.lit ((target.cpu - f.vcpus : Int) / scales.cpu : ℚ)) 2))
        (Arithmetic.real.mul (Arithmetic.real.lit (4 / 10))
          (Arithmetic.real.pow (Arithmetic.real.lit ((target.ram - f.ram : Int) / scales.ram : ℚ)) 2)))
      (Arithmetic.real.mul (Arithmetic.real.lit (2 / 10))
        (Arithmetic.real.pow (Arithmetic.real.lit ((target.disk - f.disk : Int) / scales.disk : ℚ)) 2))) =
      √(deviation target scales f) := by
    simp only [Arithmetic.real, deviation]
    push_cast
    rfl
  simp only [flavorDistance, root, penalised, SizedFlavor.short, decide_eq_true_eq]
  congr 1
  norm_num [Arithmetic.real]

theorem real_compares (x y : ℝ) : Arithmetic.real.lt x y = true ↔ x < y := by
  simp [Arithmetic.real]

/-- With exact numbers the distance is the penalised one. -/
theorem nearestFlavor_real (target : Target) (of : Scales.Of flavors scales) (some : complete flavors ≠ []) :
    ∃ best, Argmin.First (penalised target scales) (complete flavors) best ∧
      nearestFlavor .real target flavors = .ok (.some (flavorMatch .real target (penalised target scales best) best)) := by
  obtain ⟨best, first, found⟩ := nearestFlavor_first real_compares target of some
  simp only [flavorDistance_real] at first found
  exact ⟨best, first, found⟩

theorem deviation_nonneg (f : SizedFlavor) : 0 ≤ deviation target scales f := by
  unfold deviation
  positivity

theorem deviation_eq_zero (of : Scales.Of flavors scales) {f : SizedFlavor} :
    deviation target scales f = 0 ↔ f.vcpus = target.cpu ∧ f.ram = target.ram ∧ f.disk = target.disk := by
  have cpu : (scales.cpu : ℚ) ≠ 0 := by exact_mod_cast scale_ne_zero of.cpu
  have ram : (scales.ram : ℚ) ≠ 0 := by exact_mod_cast scale_ne_zero of.ram
  have disk : (scales.disk : ℚ) ≠ 0 := by exact_mod_cast scale_ne_zero of.disk
  constructor
  · intro zero
    have first := sq_nonneg (((target.cpu : ℚ) - f.vcpus) / scales.cpu)
    have second := sq_nonneg (((target.ram : ℚ) - f.ram) / scales.ram)
    have third := sq_nonneg (((target.disk : ℚ) - f.disk) / scales.disk)
    unfold deviation at zero
    have none {size own scale : Int} (nonzero : (scale : ℚ) ≠ 0) (square : (((size : ℚ) - own) / scale) ^ 2 = 0) :
        own = size := by
      have difference := (div_eq_zero_iff.mp (pow_eq_zero_iff two_ne_zero |>.mp square)).resolve_right nonzero
      exact_mod_cast (sub_eq_zero.mp difference).symm
    exact ⟨none cpu (by linarith), none ram (by linarith), none disk (by linarith)⟩
  · rintro ⟨cpu, ram, disk⟩
    simp [deviation, cpu, ram, disk]

theorem penalised_nonneg (f : SizedFlavor) : 0 ≤ penalised target scales f := by
  unfold penalised
  split <;> positivity

theorem penalised_eq_zero (of : Scales.Of flavors scales) {f : SizedFlavor} :
    penalised target scales f = 0 ↔ f.vcpus = target.cpu ∧ f.ram = target.ram ∧ f.disk = target.disk := by
  have root : √(deviation target scales f : ℝ) = 0 ↔ deviation target scales f = 0 := by
    rw [Real.sqrt_eq_zero (by exact_mod_cast deviation_nonneg f)]
    exact_mod_cast Iff.rfl
  rw [← deviation_eq_zero of, ← root]
  unfold penalised
  split
  · simp
  · exact Iff.rfl

end Matching

/- The result is the first of the nearest complete flavors, with its distance as the score and
its shortfall as the flags. -/
def Recommends (target : Target) (distance : SizedFlavor → ℝ) (flavors : List OSFlavorSummary)
    (r : FlavorMatchResult ℝ) : Prop :=
  ∃ best, Argmin.First distance (complete flavors) best ∧
    r.flavorId = best.flavor.id.getD "" ∧ r.flavorName = best.flavor.name.getD "" ∧
    r.vcpus = best.vcpus ∧ r.ram = best.ram ∧ r.disk = best.disk ∧
    |r.score - max 0 (1 - distance best)| ≤ (1 / 2 / 10 ^ 4 : ℚ) ∧
    (r.underprovisioned = true ↔ best.vcpus < target.cpu ∨ best.ram < target.ram ∨ best.disk < target.disk) ∧
    r.overprovisioned = !r.underprovisioned

/- The flavor is what the VM has. -/
def SizedFlavor.exactly (f : SizedFlavor) (target : Target) : Prop :=
  f.vcpus = target.cpu ∧ f.ram = target.ram ∧ f.disk = target.disk

section Recommending
variable {site : Site} {desk after : Desk} {flavors : List OSFlavorSummary} {vm : VMSummary} {hw : VMHardware}

/- What a VM with this hardware needs. -/
def VMSummary.target (vm : VMSummary) (hw : VMHardware) : Target := ⟨hw.cpuCount, hw.memoryMb, vm.totalDisk⟩

/-- With the catalog at hand, the match is that of the catalog. -/
theorem matchFlavor_loaded {F : Type} {ar : Arithmetic F} (hardware : vm.hardware = some hw)
    (loaded : getFlavors site desk = .ok flavors after) :
    matchFlavor ar site vm desk = liftExcept (nearestFlavor ar (vm.target hw) flavors) after := by
  unfold matchFlavor
  rw [hardware]
  change EStateM.bind _ _ desk = _
  rw [EStateM.bind, loaded]
  rfl

theorem max_real (x : ℝ) : Arithmetic.real.max (Arithmetic.real.lit 0) x = max 0 x := by
  simp only [Arithmetic.max, Arithmetic.real, Rat.cast_zero, decide_eq_true_eq]
  split
  · rename_i positive
    exact (max_eq_right positive.le).symm
  · rename_i negative
    exact (max_eq_left (not_lt.mp negative)).symm

theorem flavorMatch_recommends {target : Target} {distance : SizedFlavor → ℝ} {best : SizedFlavor}
    (first : Argmin.First distance (complete flavors) best) :
    Recommends target distance flavors (flavorMatch .real target (distance best) best) := by
  refine ⟨best, first, rfl, rfl, rfl, rfl, rfl, ?_, ?_, ?_⟩
  · have score : Arithmetic.real.max (Arithmetic.real.lit 0)
        (Arithmetic.real.sub (Arithmetic.real.lit 1) (distance best)) = max 0 (1 - distance best) := by
      rw [max_real]
      simp [Arithmetic.real]
    simp only [flavorMatch, score]
    push_cast
    exact Arithmetic.abs_real_round_sub_le _ 4
  · simp [flavorMatch, SizedFlavor.short]
  · simp only [flavorMatch, SizedFlavor.short, ← decide_not, decide_eq_decide]
    omega

/-- The match is optimal: the first of the nearest complete flavors, and an exact one if there
is one. -/
theorem flavor_match_optimal (hardware : vm.hardware = some hw) (loaded : getFlavors site desk = .ok flavors after)
    (some : complete flavors ≠ []) :
    ∃ scales r, Scales.Of flavors scales ∧ matchFlavor .real site vm desk = .ok (.some r) after ∧
      Recommends (vm.target hw) (penalised (vm.target hw) scales) flavors r ∧
      ((∃ f ∈ complete flavors, f.exactly (vm.target hw)) →
        r.vcpus = hw.cpuCount ∧ r.ram = hw.memoryMb ∧ r.disk = vm.totalDisk) := by
  obtain ⟨scales, of⟩ := exists_scales some
  obtain ⟨best, first, found⟩ := nearestFlavor_real (vm.target hw) of some
  refine ⟨scales, _, of, ?_, flavorMatch_recommends first, ?_⟩
  · rw [matchFlavor_loaded hardware loaded, found]
    rfl
  · rintro ⟨f, member, exactly⟩
    have zero := (penalised_eq_zero of).mpr exactly
    have least : penalised (vm.target hw) scales best = 0 :=
      le_antisymm (zero ▸ first.le member) (penalised_nonneg best)
    exact (penalised_eq_zero of).mp least

end Recommending

/- The services with that catalog of flavors loaded. -/
def deskWith (flavors : List OSFlavorSummary) : Desk := ⟨.initial, getVmwareInventoryService, ⟨some flavors, none⟩⟩

def flavor (name : String) (vcpus ram disk : Int) : OSFlavorSummary :=
  ⟨some name, some name, some vcpus, some ram, some disk⟩

/- A VM of that size, with one disk. -/
def sizedHardware (cpu ram disk : Int) : VMHardware := ⟨cpu, 1, ram, [⟨"Hard disk 1", disk, true, none, none⟩], []⟩

def sizedVm (cpu ram disk : Int) : VMSummary where
  id := "vm-1"
  name := "web01"
  powerState := "poweredOn"
  guestOs := some "Ubuntu Linux (64-bit)"
  hardware := some (sizedHardware cpu ram disk)
  clusterName := none
  datastores := []
  tags := []
  annotation := none
  firmware := none
  secureBootEnabled := none
  vmwareToolsStatus := none
  diskControllerTypes := none

def threeFlavors : List OSFlavorSummary :=
  [flavor "m1.small" 1 2048 20, ⟨some "m1.odd", some "m1.odd", none, some 512, some 1⟩, flavor "m1.medium" 2 4096 40]

theorem exact_flavor_recommended : ∃ r,
    matchFlavor .real smallSite (sizedVm 2 4096 40) (deskWith threeFlavors) = .ok (some r) (deskWith threeFlavors) ∧
      r.vcpus = 2 ∧ r.ram = 4096 ∧ r.disk = 40 := by
  have loaded : getFlavors smallSite (deskWith threeFlavors) = .ok threeFlavors (deskWith threeFlavors) := rfl
  have medium : ⟨flavor "m1.medium" 2 4096 40, 2, 4096, 40⟩ ∈ complete threeFlavors := by
    apply mem_complete.mpr
    simp [threeFlavors, flavor]
  obtain ⟨_, r, _, found, _, exactly⟩ := @flavor_match_optimal _ _ _ _ (sizedVm 2 4096 40) (sizedHardware 2 4096 40)
    rfl loaded (List.ne_nil_of_mem medium)
  exact ⟨r, found, exactly ⟨_, medium, rfl, rfl, rfl⟩⟩

/- Where floats end: the quotients that `/` of two integers cannot represent, and those whose
square `**` cannot. -/
structure FloatRange where
  quotient : ℚ → Bool
  square : ℚ → Bool

/- Doubles, which round to the nearest: from there on a number is rounded out of the range. -/
def binary64 : FloatRange :=
  ⟨fun q => decide (2 ^ 1024 - 2 ^ 970 ≤ |q|), fun q => decide (2 ^ 512 - 2 ^ 458 ≤ |q|)⟩

theorem binary64_small {q : ℚ} (small : |q| ≤ 1) : binary64.quotient q = false ∧ binary64.square q = false := by
  have ends (n : Nat) : (1 : ℚ) < 2 ^ (n + 54) - 2 ^ n := by
    have power : (1 : ℚ) ≤ 2 ^ n := one_le_pow₀ (by norm_num)
    rw [pow_add]
    norm_num
    linarith
  simp only [binary64, decide_eq_false_iff_not, not_le]
  exact ⟨small.trans_lt (ends 970), small.trans_lt (ends 458)⟩

/- Numbers that do not end. -/
def unbounded : FloatRange := ⟨fun _ => false, fun _ => false⟩

section Overflow
variable (range : FloatRange) (target : Target) (scales : Scales)

/- `norm_cpu`, `norm_ram` and `norm_disk`. -/
def SizedFlavor.norms (f : SizedFlavor) : List ℚ :=
  [((target.cpu - f.vcpus : Int) : ℚ) / scales.cpu, ((target.ram - f.ram : Int) : ℚ) / scales.ram,
    ((target.disk - f.disk : Int) : ℚ) / scales.disk]

/- What computing the distance of a flavor raises. -/
def SizedFlavor.overflow (f : SizedFlavor) : Option Exc :=
  if (f.norms target scales).any range.quotient then
    some (.foreign "OverflowError" "integer division result too large for a float")
  else if (f.norms target scales).any range.square then
    some (.foreign "OverflowError" "(34, 'Numerical result out of range')")
  else none

/- `_match_flavor` with floats of that range. -/
def nearestFlavorIn {F : Type} (ar : Arithmetic F) (flavors : List OSFlavorSummary) :
    Except Exc (Option (FlavorMatchResult F)) := do
  if flavors.isEmpty then return none
  let maxCpu ← largest (flavors.map OSFlavorSummary.vcpus)
  let maxRam ← largest (flavors.map OSFlavorSummary.ram)
  let maxDisk ← largest (flavors.map OSFlavorSummary.disk)
  match (complete flavors).findSome? (SizedFlavor.overflow range target ⟨maxCpu, maxRam, maxDisk⟩) with
  | some exc => throw exc
  | none => nearestFlavor ar target flavors

end Overflow

def matchFlavorIn {F : Type} (range : FloatRange) (ar : Arithmetic F) (site : Site) (vm : VMSummary) :
    V (Option (FlavorMatchResult F)) := do
  match vm.hardware with
  | none => return none
  | some hw =>
    let flavors ← getFlavors site
    liftExcept (nearestFlavorIn range (vm.target hw) ar flavors)

/- A size that some flavor states. -/
def Stated (flavors : List OSFlavorSummary) (size : OSFlavorSummary → Option Int) : Prop :=
  ∃ f ∈ flavors, size f ≠ none

/- No complete flavor is so far from the target that its distance is out of range. -/
def InRange (range : FloatRange) (target : Target) (flavors : List OSFlavorSummary) : Prop :=
  ∀ scales, Scales.Of flavors scales → ∀ f ∈ complete flavors, ∀ norm ∈ f.norms target scales,
    range.quotient norm = false ∧ range.square norm = false

/- There is nothing to match, or every size is stated by some flavor and nothing overflows. -/
def Matchable (range : FloatRange) (vm : VMSummary) (flavors : List OSFlavorSummary) : Prop :=
  ∀ hw, vm.hardware = some hw → flavors ≠ [] →
    Stated flavors OSFlavorSummary.vcpus ∧ Stated flavors OSFlavorSummary.ram ∧ Stated flavors OSFlavorSummary.disk ∧
      InRange range (vm.target hw) flavors

section Totality
variable {F : Type} {ar : Arithmetic F} {range : FloatRange} {target : Target} {flavors : List OSFlavorSummary}
  {scales : Scales}

/-- Where floats do not end, nothing is raised for their sake. -/
theorem nearestFlavorIn_unbounded : nearestFlavorIn unbounded target ar flavors = nearestFlavor ar target flavors := by
  have none (scales : Scales) : (complete flavors).findSome? (SizedFlavor.overflow unbounded target scales) = none := by
    simp [SizedFlavor.overflow, unbounded, SizedFlavor.norms]
  unfold nearestFlavorIn nearestFlavor
  simp only [none]
  cases flavors.isEmpty with
  | true => rfl
  | false =>
    cases largest (flavors.map OSFlavorSummary.vcpus) with
    | error exc => rfl
    | ok maxCpu =>
      cases largest (flavors.map OSFlavorSummary.ram) with
      | error exc => rfl
      | ok maxRam => cases largest (flavors.map OSFlavorSummary.disk) <;> rfl

theorem matchFlavorIn_unbounded (site : Site) (vm : VMSummary) :
    matchFlavorIn unbounded ar site vm = matchFlavor ar site vm := by
  unfold matchFlavorIn matchFlavor
  simp only [nearestFlavorIn_unbounded]
  rfl

/-- With the catalog at hand, the match is that of the catalog. -/
theorem matchFlavorIn_loaded {site : Site} {desk after : Desk} {vm : VMSummary} {hw : VMHardware}
    (hardware : vm.hardware = some hw) (loaded : getFlavors site desk = .ok flavors after) :
    matchFlavorIn range ar site vm desk = liftExcept (nearestFlavorIn range (vm.target hw) ar flavors) after := by
  unfold matchFlavorIn
  rw [hardware]
  change EStateM.bind _ _ desk = _
  rw [EStateM.bind, loaded]

theorem stated_of_scale {size : OSFlavorSummary → Option Int} {scale : Int} (is : Scale (flavors.map size) scale) :
    Stated flavors size := by
  obtain ⟨top, member, _⟩ := is
  obtain ⟨f, inside, own⟩ := List.mem_map.mp member
  exact ⟨f, inside, by simp [own]⟩

theorem scale_of_stated {size : OSFlavorSummary → Option Int} (stated : Stated flavors size) :
    ∃ scale, Scale (flavors.map size) scale := by
  obtain ⟨f, inside, given⟩ := stated
  obtain ⟨own, same⟩ := Option.ne_none_iff_exists'.mp given
  exact exists_scale (same ▸ List.mem_map_of_mem (f := size) inside)

theorem Scales.Of.unique {others : Scales} (of : Scales.Of flavors scales) (too : Scales.Of flavors others) :
    scales = others := by
  have same {sizes : List (Option Int)} {a b : Int} (is : Scale sizes a) (also : Scale sizes b) : a = b :=
    Except.ok.inj ((largest_ok.mpr is).symm.trans (largest_ok.mpr also))
  cases scales
  cases others
  simp only [Scales.mk.injEq]
  exact ⟨same of.cpu too.cpu, same of.ram too.ram, same of.disk too.disk⟩

theorem overflow_eq_none {f : SizedFlavor} : f.overflow range target scales = none ↔
    ∀ norm ∈ f.norms target scales, range.quotient norm = false ∧ range.square norm = false := by
  unfold SizedFlavor.overflow
  split
  · rename_i large
    obtain ⟨norm, member, raises⟩ := List.any_eq_true.mp large
    simp only [reduceCtorEq, false_iff]
    intro inside
    rw [(inside norm member).1] at raises
    contradiction
  · rename_i small
    split
    · rename_i large
      obtain ⟨norm, member, raises⟩ := List.any_eq_true.mp large
      simp only [reduceCtorEq, false_iff]
      intro inside
      rw [(inside norm member).2] at raises
      contradiction
    · rename_i smaller
      simp only [true_iff]
      intro norm member
      simp only [List.any_eq_true, not_exists, not_and, Bool.not_eq_true] at small smaller
      exact ⟨small norm member, smaller norm member⟩

/-- Whatever the arithmetic, some flavor is found exactly if there is a complete one. -/
theorem foldl_nearer_isSome (ar : Arithmetic F) (distance : SizedFlavor → F) (flavors : List OSFlavorSummary)
    (best : Option (F × SizedFlavor)) :
    (flavors.foldl (nearer ar distance) best).isSome = (best.isSome || !(complete flavors).isEmpty) := by
  induction flavors generalizing best with
  | nil => simp [complete]
  | cons flavor flavors ih =>
    rw [List.foldl_cons, ih]
    cases sized : flavor.sized with
    | none =>
      have skipped : complete (flavor :: flavors) = complete flavors := by simp [complete, sized]
      simp [skipped, nearer, sized]
    | some f =>
      have taken : complete (flavor :: flavors) = f :: complete flavors := by simp [complete, sized]
      have found : (nearer ar distance best flavor).isSome = true := by
        cases best with
        | none => simp [nearer, sized]
        | some found =>
          simp only [nearer, sized]
          split <;> rfl
      simp [taken, found]

theorem nearestFlavor_none_iff (ar : Arithmetic F) (target : Target) (of : Scales.Of flavors scales) :
    ∃ r, nearestFlavor ar target flavors = .ok r ∧ (r = none ↔ complete flavors = []) := by
  refine ⟨_, nearestFlavor_scaled ar of, ?_⟩
  have found := foldl_nearer_isSome ar (flavorDistance ar target scales.cpu scales.ram scales.disk) flavors none
  rw [Option.map_eq_none_iff, ← Option.not_isSome_iff_eq_none, found]
  simp

/-- Once the maxima are there, the match raises exactly if some distance is out of range. -/
theorem nearestFlavorIn_cases (range : FloatRange) (ar : Arithmetic F) (target : Target)
    (of : Scales.Of flavors scales) :
    (InRange range target flavors ∧ nearestFlavorIn range target ar flavors = nearestFlavor ar target flavors) ∨
    (¬ InRange range target flavors ∧ ∃ exc, nearestFlavorIn range target ar flavors = .error exc) := by
  have some : flavors.isEmpty = false := by
    obtain ⟨top, member, _⟩ := of.cpu
    cases flavors with
    | nil => contradiction
    | cons flavor flavors => rfl
  unfold nearestFlavorIn
  rw [some, largest_ok.mpr of.cpu, largest_ok.mpr of.ram, largest_ok.mpr of.disk]
  simp only [bind, Except.bind]
  cases raises : (complete flavors).findSome? (SizedFlavor.overflow range target ⟨scales.cpu, scales.ram, scales.disk⟩) with
  | none =>
    refine .inl ⟨fun others too f member => ?_, rfl⟩
    obtain rfl := of.unique too
    exact overflow_eq_none.mp (List.findSome?_eq_none_iff.mp raises f member)
  | some exc =>
    refine .inr ⟨fun inside => ?_, exc, rfl⟩
    obtain ⟨f, member, overflows⟩ := List.exists_of_findSome?_eq_some raises
    rw [overflow_eq_none.mpr (inside scales of f member)] at overflows
    contradiction

/-- A catalog that is not empty can be matched exactly if it states every size and no distance is
out of range. -/
theorem nearestFlavorIn_total_iff (some : flavors ≠ []) :
    (∃ r, nearestFlavorIn range target ar flavors = .ok r ∧ (r = none ↔ complete flavors = [])) ↔
      Stated flavors OSFlavorSummary.vcpus ∧ Stated flavors OSFlavorSummary.ram ∧
        Stated flavors OSFlavorSummary.disk ∧ InRange range target flavors := by
  have filled : flavors.isEmpty = false := by simpa using some
  constructor
  · rintro ⟨r, returned, _⟩
    obtain ⟨scales, of⟩ : ∃ scales, Scales.Of flavors scales := by
      unfold nearestFlavorIn at returned
      rw [filled] at returned
      cases cpu : largest (flavors.map OSFlavorSummary.vcpus) with
      | error exc => simp [cpu, bind, Except.bind] at returned
      | ok maxCpu =>
        cases ram : largest (flavors.map OSFlavorSummary.ram) with
        | error exc => simp [cpu, ram, bind, Except.bind] at returned
        | ok maxRam =>
          cases disk : largest (flavors.map OSFlavorSummary.disk) with
          | error exc => simp [cpu, ram, disk, bind, Except.bind] at returned
          | ok maxDisk =>
            exact ⟨⟨maxCpu, maxRam, maxDisk⟩, largest_ok.mp cpu, largest_ok.mp ram, largest_ok.mp disk⟩
    refine ⟨stated_of_scale of.cpu, stated_of_scale of.ram, stated_of_scale of.disk, ?_⟩
    obtain ⟨inside, _⟩ | ⟨_, exc, raises⟩ := nearestFlavorIn_cases range ar target of
    · exact inside
    · rw [raises] at returned
      contradiction
  · rintro ⟨cpu, ram, disk, inside⟩
    obtain ⟨maxCpu, cpu⟩ := scale_of_stated cpu
    obtain ⟨maxRam, ram⟩ := scale_of_stated ram
    obtain ⟨maxDisk, disk⟩ := scale_of_stated disk
    have of : Scales.Of flavors ⟨maxCpu, maxRam, maxDisk⟩ := ⟨cpu, ram, disk⟩
    obtain ⟨r, returned, nothing⟩ := nearestFlavor_none_iff ar target of
    obtain ⟨_, same⟩ | ⟨outside, _⟩ := nearestFlavorIn_cases range ar target of
    · exact ⟨r, same.trans returned, nothing⟩
    · exact absurd inside outside

end Totality

/- A match without an exception, which is None only where there is nothing to match. -/
def Answered {F : Type} (range : FloatRange) (ar : Arithmetic F) (site : Site) (vm : VMSummary) (desk : Desk)
    (flavors : List OSFlavorSummary) : Prop :=
  ∃ r t, matchFlavorIn range ar site vm desk = .ok r t ∧ (r = none ↔ vm.hardware = none ∨ complete flavors = [])

/-- The match answers exactly if there is nothing to match, or every size is stated by some
flavor and no distance is out of range. Where floats do not end, it is the match without them. -/
theorem flavor_match_answers_iff {F : Type} {ar : Arithmetic F} {range : FloatRange} {site : Site} {vm : VMSummary}
    {desk after : Desk} {flavors : List OSFlavorSummary} (loaded : getFlavors site desk = .ok flavors after) :
    (Answered range ar site vm desk flavors ↔ Matchable range vm flavors) ∧
      matchFlavorIn unbounded ar site vm = matchFlavor ar site vm := by
  refine ⟨?_, matchFlavorIn_unbounded site vm⟩
  unfold Answered Matchable
  cases hardware : vm.hardware with
  | none =>
    refine iff_of_true ⟨none, desk, by rw [matchFlavorIn, hardware]; rfl, by simp⟩ ?_
    intro hw given
    contradiction
  | some hw =>
    have run := @matchFlavorIn_loaded F ar range flavors site desk after vm hw hardware loaded
    have lifted : (∃ r t, liftExcept (nearestFlavorIn range (vm.target hw) ar flavors) after = .ok r t ∧
        (r = none ↔ complete flavors = [])) ↔
        ∃ r, nearestFlavorIn range (vm.target hw) ar flavors = .ok r ∧ (r = none ↔ complete flavors = []) := by
      cases nearestFlavorIn range (vm.target hw) ar flavors with
      | error exc =>
        constructor
        · rintro ⟨_, _, never, _⟩
          cases never
        · rintro ⟨_, never, _⟩
          cases never
      | ok r =>
        constructor
        · rintro ⟨_, _, same, rest⟩
          cases same
          exact ⟨r, rfl, rest⟩
        · rintro ⟨_, same, rest⟩
          cases same
          exact ⟨r, after, rfl, rest⟩
    simp only [run, reduceCtorEq, false_or, Option.some.injEq, forall_eq', lifted]
    by_cases empty : flavors = []
    · subst empty
      exact iff_of_true ⟨none, rfl, by simp [complete]⟩ (fun filled => absurd rfl filled)
    · rw [nearestFlavorIn_total_iff empty]
      exact ⟨fun total _ => total, fun total => total empty⟩

/- A flavor that does not state its disk. -/
def diskless : OSFlavorSummary := ⟨some "m1.odd", some "m1.odd", some 1, some 512, none⟩

theorem incomplete_flavor_skipped : Answered binary64 .rational smallSite (sizedVm 2 4096 40)
    (deskWith [diskless, flavor "m1.medium" 2 4096 40]) [diskless, flavor "m1.medium" 2 4096 40] := by
  have stated (size : OSFlavorSummary → Option Int) (given : size (flavor "m1.medium" 2 4096 40) ≠ none) :
      Stated [diskless, flavor "m1.medium" 2 4096 40] size := ⟨flavor "m1.medium" 2 4096 40, by simp, given⟩
  have scaled : Scales.Of [diskless, flavor "m1.medium" 2 4096 40] ⟨2, 4096, 40⟩ :=
    ⟨largest_ok.mp rfl, largest_ok.mp rfl, largest_ok.mp rfl⟩
  apply (flavor_match_answers_iff rfl).1.mpr
  intro hw own _
  cases own
  refine ⟨stated _ (by simp [flavor]), stated _ (by simp [flavor]), stated _ (by simp [flavor]), ?_⟩
  intro scales of f member norm inside
  obtain rfl := of.unique scaled
  obtain rfl : f = ⟨flavor "m1.medium" 2 4096 40, 2, 4096, 40⟩ := List.mem_singleton.mp member
  have zero : norm = 0 := by
    simpa [SizedFlavor.norms, VMSummary.target, sizedVm, sizedHardware, VMSummary.totalDisk, VMSummary.disks] using inside
  exact binary64_small (by simp [zero])

/- Every VM and every catalog is answered. -/
def AlwaysAnswered : Prop :=
  ∀ (site : Site) (vm : VMSummary) (desk after : Desk) (flavors : List OSFlavorSummary),
    getFlavors site desk = .ok flavors after → Answered binary64 .rational site vm desk flavors

theorem diskless_catalog_raises : ¬ AlwaysAnswered := by
  intro claim
  obtain ⟨r, t, returned, _⟩ := claim smallSite (sizedVm 2 4096 40)
    (deskWith [diskless]) _ _ rfl
  have raises : matchFlavorIn binary64 .rational smallSite (sizedVm 2 4096 40)
      (deskWith [diskless]) =
      .error (.foreign "ValueError" "max() arg is an empty sequence")
        (deskWith [diskless]) := rfl
  rw [raises] at returned
  contradiction

end VMachine.VMware
