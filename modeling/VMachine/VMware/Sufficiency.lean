import VMachine.VMware.Flavors

/-! When `_match_flavor` recommends a flavor that is large enough. One that is too small counts
as half as far again only, so that it is recommended all the same where it is near enough. -/
namespace VMachine.VMware
open Py Effects OpenStack

/- Some flavor that is large enough comes before all that are too small: by the distances as
they are computed, and of equal ones by its place in the catalog. -/
def SufficientNearest {K : Type} [LinearOrder K] (distance : SizedFlavor → K) (target : Target)
    (flavors : List OSFlavorSummary) : Prop :=
  ∃ before f later, complete flavors = before ++ f :: later ∧ f.short target = false ∧
    (∀ g ∈ before, g.short target = true → distance f < distance g) ∧
    ∀ g ∈ later, g.short target = true → distance f ≤ distance g

section Penalty
variable {target : Target} {scales : Scales} {flavors : List OSFlavorSummary} {f g : SizedFlavor}

theorem penalised_sufficient (enough : f.short target = false) :
    penalised target scales f = √(deviation target scales f) := by
  have none := of_decide_eq_false enough
  rw [penalised, if_neg none]

theorem penalised_short (short : f.short target = true) :
    penalised target scales f = √(9 / 4 * deviation target scales f) := by
  have some := of_decide_eq_true short
  have factor : √(9 / 4 : ℝ) = (3 / 2 : ℚ) := by
    rw [show (9 / 4 : ℝ) = (3 / 2) ^ 2 by norm_num, Real.sqrt_sq (by norm_num)]
    norm_num
  rw [penalised, if_pos some, Real.sqrt_mul (by norm_num), factor, mul_comm]

/-- The roots are compared by comparing the sums under them. -/
theorem penalised_lt_iff (enough : f.short target = false) (short : g.short target = true) :
    penalised target scales f < penalised target scales g ↔
      4 * deviation target scales f < 9 * deviation target scales g := by
  rw [penalised_sufficient enough, penalised_short short,
    Real.sqrt_lt_sqrt_iff (by exact_mod_cast deviation_nonneg f)]
  have cast : (4 * deviation target scales f < 9 * deviation target scales g) ↔
      ((4 * deviation target scales f : ℚ) : ℝ) < ((9 * deviation target scales g : ℚ) : ℝ) := Rat.cast_lt.symm
  rw [cast]
  push_cast
  constructor <;> intro less <;> linarith

theorem penalised_le_iff (enough : f.short target = false) (short : g.short target = true) :
    penalised target scales f ≤ penalised target scales g ↔
      4 * deviation target scales f ≤ 9 * deviation target scales g := by
  have nonneg : (0 : ℝ) ≤ 9 / 4 * deviation target scales g := by
    have base : (0 : ℝ) ≤ deviation target scales g := by exact_mod_cast deviation_nonneg g
    linarith
  rw [penalised_sufficient enough, penalised_short short, Real.sqrt_le_sqrt_iff nonneg]
  have cast : (4 * deviation target scales f ≤ 9 * deviation target scales g) ↔
      ((4 * deviation target scales f : ℚ) : ℝ) ≤ ((9 * deviation target scales g : ℚ) : ℝ) := Rat.cast_le.symm
  rw [cast]
  push_cast
  constructor <;> intro less <;> linarith

end Penalty

section Sufficient
variable {F K : Type} [LinearOrder K] {ar : Arithmetic F} {value : F → K} {range : FloatRange} {target : Target}
  {flavors : List OSFlavorSummary} {scales : Scales}

/-- The first of the nearest flavors is large enough exactly if one that is comes before all
that are not. -/
theorem sufficient_first_iff {distance : SizedFlavor → K} {best : SizedFlavor}
    (first : Argmin.First distance (complete flavors) best) :
    best.short target = false ↔ SufficientNearest distance target flavors := by
  rw [first.class_iff (fun f => f.short target = false)]
  simp only [Bool.not_eq_false]
  exact Iff.rfl

/-- Where the catalog has a flavor that is large enough, such a flavor is recommended exactly if
no distance is out of range and one of them comes before all that are too small. The numbers
are any that are compared by their value, as floats are. -/
theorem sufficient_recommended_iff (compares : ∀ x y, ar.lt x y = true ↔ value x < value y) {site : Site}
    {desk after : Desk} {vm : VMSummary} {hw : VMHardware} (hardware : vm.hardware = some hw)
    (loaded : getFlavors site desk = .ok flavors after) (of : Scales.Of flavors scales)
    (sufficient : ∃ f ∈ complete flavors, f.short (vm.target hw) = false) :
    (∃ r, matchFlavorIn range ar site vm desk = .ok (some r) after ∧ r.underprovisioned = false) ↔
      InRange range (vm.target hw) flavors ∧ SufficientNearest
        (fun f => value (flavorDistance ar (vm.target hw) scales.cpu scales.ram scales.disk f)) (vm.target hw)
        flavors := by
  obtain ⟨f, member, _⟩ := sufficient
  obtain ⟨best, first, found⟩ := nearestFlavor_first compares (vm.target hw) of (List.ne_nil_of_mem member)
  rw [matchFlavorIn_loaded hardware loaded, ← sufficient_first_iff first]
  obtain ⟨inside, same⟩ | ⟨outside, exc, raises⟩ := nearestFlavorIn_cases range ar (vm.target hw) of
  · rw [same, found]
    constructor
    · rintro ⟨r, returned, under⟩
      cases returned
      exact ⟨inside, under⟩
    · rintro ⟨_, enough⟩
      exact ⟨_, rfl, enough⟩
  · rw [raises]
    constructor
    · rintro ⟨r, never, _⟩
      cases never
    · rintro ⟨inside, _⟩
      exact absurd inside outside

end Sufficient

section Exact
variable {target : Target} {flavors : List OSFlavorSummary} {scales : Scales}

/-- With exact numbers, distances of which one is penalised compare as four to nine times the sums
under their roots. -/
theorem sufficientNearest_exact : SufficientNearest (fun f =>
      flavorDistance .real target scales.cpu scales.ram scales.disk f) target flavors ↔
    ∃ before f later, complete flavors = before ++ f :: later ∧ f.short target = false ∧
      (∀ g ∈ before, g.short target = true → 4 * deviation target scales f < 9 * deviation target scales g) ∧
      ∀ g ∈ later, g.short target = true → 4 * deviation target scales f ≤ 9 * deviation target scales g := by
  simp only [flavorDistance_real]
  refine exists_congr fun before => exists_congr fun f => exists_congr fun later =>
    and_congr_right fun _ => and_congr_right fun enough => and_congr ?_ ?_
  · exact forall₂_congr fun g _ => forall_congr' (penalised_lt_iff enough)
  · exact forall₂_congr fun g _ => forall_congr' (penalised_le_iff enough)

/-- Differences up to the maxima of the catalog are within the range of doubles. -/
theorem inRange_of_small (of : Scales.Of flavors scales)
    (small : ∀ f ∈ complete flavors, ∀ norm ∈ f.norms target scales, |norm| ≤ 1) :
    InRange binary64 target flavors := by
  intro others too f member norm inside
  obtain rfl := of.unique too
  exact binary64_small (small f member norm inside)

end Exact

/- One flavor a little too small, one a little too large. -/
def neighbours : List OSFlavorSummary := [flavor "m1.medium" 2 4096 40, flavor "m1.large" 4 8192 80]

theorem complete_neighbours : complete neighbours =
    [⟨flavor "m1.medium" 2 4096 40, 2, 4096, 40⟩, ⟨flavor "m1.large" 4 8192 80, 4, 8192, 80⟩] := rfl

theorem scales_neighbours : Scales.Of neighbours ⟨4, 8192, 80⟩ :=
  ⟨largest_ok.mp rfl, largest_ok.mp rfl, largest_ok.mp rfl⟩

theorem neighbours_inRange : InRange binary64 (VMSummary.target (sizedVm 3 6144 60) (sizedHardware 3 6144 60))
    neighbours := by
  apply inRange_of_small scales_neighbours
  norm_num [complete_neighbours, SizedFlavor.norms, VMSummary.target, sizedVm, sizedHardware, VMSummary.totalDisk,
    VMSummary.disks, abs_le]

theorem neighbours_nearest : SufficientNearest (fun f => flavorDistance .real
    (VMSummary.target (sizedVm 3 6144 60) (sizedHardware 3 6144 60)) 4 8192 80 f)
    (VMSummary.target (sizedVm 3 6144 60) (sizedHardware 3 6144 60)) neighbours := by
  apply (@sufficientNearest_exact _ _ ⟨4, 8192, 80⟩).mpr
  refine ⟨[⟨flavor "m1.medium" 2 4096 40, 2, 4096, 40⟩], ⟨flavor "m1.large" 4 8192 80, 4, 8192, 80⟩, [], rfl,
    by decide, ?_, by simp⟩
  intro g member _
  rw [List.mem_singleton.mp member]
  norm_num [deviation, VMSummary.target, sizedVm, sizedHardware, VMSummary.totalDisk, VMSummary.disks]

theorem larger_neighbour_recommended : ∃ r,
    matchFlavorIn binary64 .real smallSite (sizedVm 3 6144 60) (deskWith neighbours) =
      .ok (some r) (deskWith neighbours) ∧ r.underprovisioned = false := by
  have loaded : getFlavors smallSite (deskWith neighbours) = .ok neighbours (deskWith neighbours) := rfl
  have large : ⟨flavor "m1.large" 4 8192 80, 4, 8192, 80⟩ ∈ complete neighbours := by simp [complete_neighbours]
  apply (@sufficient_recommended_iff _ _ _ _ id binary64 _ _ real_compares _ _ _ (sizedVm 3 6144 60)
    (sizedHardware 3 6144 60) rfl loaded scales_neighbours ⟨_, large, by decide⟩).mpr
  exact ⟨neighbours_inRange, neighbours_nearest⟩

/- The documented strategy, exact or ceiling. -/
def CeilingStrategy {F : Type} (ar : Arithmetic F) : Prop :=
  ∀ (site : Site) (desk after : Desk) (flavors : List OSFlavorSummary) (vm : VMSummary) (hw : VMHardware),
    vm.hardware = some hw → getFlavors site desk = .ok flavors after →
    (∃ f ∈ complete flavors, f.short (vm.target hw) = false) →
    ∃ r, matchFlavorIn binary64 ar site vm desk = .ok (some r) after ∧ r.underprovisioned = false

/- One flavor whose disk is too small, and one that is far too large. -/
def farApart : List OSFlavorSummary := [flavor "m1.large" 4 8192 80, flavor "m1.32xlarge" 32 131072 1000]

theorem short_flavor_recommended : ¬ CeilingStrategy .real := by
  intro claim
  have loaded : getFlavors smallSite (deskWith farApart) = .ok farApart (deskWith farApart) := rfl
  have scaled : Scales.Of farApart ⟨32, 131072, 1000⟩ := ⟨largest_ok.mp rfl, largest_ok.mp rfl, largest_ok.mp rfl⟩
  have list : complete farApart = [⟨flavor "m1.large" 4 8192 80, 4, 8192, 80⟩,
      ⟨flavor "m1.32xlarge" 32 131072 1000, 32, 131072, 1000⟩] := rfl
  obtain ⟨r, found, enough⟩ := claim smallSite _ _ farApart (sizedVm 4 8192 100) (sizedHardware 4 8192 100) rfl loaded
    ⟨⟨flavor "m1.32xlarge" 32 131072 1000, 32, 131072, 1000⟩, by simp [list], by decide⟩
  obtain ⟨best, first, nearest⟩ := nearestFlavor_real (VMSummary.target (sizedVm 4 8192 100) (sizedHardware 4 8192 100))
    scaled (by simp [list])
  rw [matchFlavorIn_loaded rfl loaded] at found
  have inside : InRange binary64 (VMSummary.target (sizedVm 4 8192 100) (sizedHardware 4 8192 100)) farApart := by
    apply inRange_of_small scaled
    norm_num [list, SizedFlavor.norms, VMSummary.target, sizedVm, sizedHardware, VMSummary.totalDisk,
      VMSummary.disks, abs_le]
  obtain ⟨_, same⟩ | ⟨outside, _⟩ := nearestFlavorIn_cases binary64 .real _ scaled
  · rw [same, nearest] at found
    cases found
    have least := first.le (y := ⟨flavor "m1.large" 4 8192 80, 4, 8192, 80⟩) (by simp [list])
    rw [penalised_le_iff enough (by decide)] at least
    have member := first.mem
    rw [list] at member
    obtain rfl | last := List.mem_cons.mp member
    · contradiction
    · rw [List.mem_singleton.mp last] at least
      norm_num [deviation, VMSummary.target, sizedVm, sizedHardware, VMSummary.totalDisk, VMSummary.disks] at least
  · exact outside inside

end VMachine.VMware
