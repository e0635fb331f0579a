import VMachine.VMware.ParallelAccounts

/-! Which network `_map_networks` finds for each card of a VM: one of the very name, or else one
that differs in case only. The order of the catalog decides between networks of one kind,
never between the two kinds. -/
namespace VMachine.VMware
open Py Effects OpenStack

section Finding
variable {F : Type} (ar : Arithmetic F) (lower : String → String) (networks : List OSNetworkSummary) (name : String)

/- The first network of that kind stands at the end of those that are not. -/
def FirstOf (kind : OSNetworkSummary → Prop) (net : OSNetworkSummary) : Prop :=
  ∃ before after, networks = before ++ net :: after ∧ kind net ∧ ∀ other ∈ before, ¬ kind other

/- The network bears the name, or one that differs in case only. -/
def OSNetworkSummary.named (net : OSNetworkSummary) : Prop := net.name = some name

def OSNetworkSummary.alike (net : OSNetworkSummary) : Prop := net.name.map lower = some (lower name)

instance (net : OSNetworkSummary) : Decidable (net.named name) := inferInstanceAs (Decidable (net.name = some name))

inductive NetworkFound : NetworkMappingResult F → Prop
  | exact (net : OSNetworkSummary) (first : FirstOf networks (OSNetworkSummary.named name) net) :
      NetworkFound ⟨name, net.id, net.name, "exact_name", ar.lit 1⟩
  | caseInsensitive (net : OSNetworkSummary) (unnamed : ∀ other ∈ networks, ¬ other.named name)
      (first : FirstOf networks (OSNetworkSummary.alike lower name) net) :
      NetworkFound ⟨name, net.id, net.name, "case_insensitive", ar.lit (9 / 10)⟩
  | notFound (unlike : ∀ other ∈ networks, ¬ other.alike lower name) :
      NetworkFound ⟨name, none, none, "not_found", ar.lit 0⟩

end Finding

/- The result for a card, and what follows from it: no exact match is passed over, and nothing
is missing that would match ignoring case. -/
structure Characterised {F : Type} (ar : Arithmetic F) (lower : String → String) (networks : List OSNetworkSummary)
    (nic : VMNic) (r : NetworkMappingResult F) : Prop where
  found : NetworkFound ar lower networks nic.networkName r
  unshadowed : (∃ net ∈ networks, net.named nic.networkName) →
    r.matchType = "exact_name" ∧ r.openstackNetworkName = some nic.networkName
  unmatched : r.matchType = "not_found" → ∀ net ∈ networks, ¬ net.alike lower nic.networkName

section Mapping
variable {F : Type} {ar : Arithmetic F} {lower : String → String} {networks : List OSNetworkSummary} {name : String}

theorem firstOf_of_find {kind : OSNetworkSummary → Prop} {p : OSNetworkSummary → Bool}
    (decides : ∀ net, p net = true ↔ kind net) {net : OSNetworkSummary} (found : networks.find? p = some net) :
    FirstOf networks kind net := by
  obtain ⟨own, before, after, split, others⟩ := List.find?_eq_some_iff_append.mp found
  refine ⟨before, after, split, (decides net).mp own, fun other member is => ?_⟩
  have no := others other member
  rw [(decides other).mpr is] at no
  contradiction

theorem FirstOf.mem {kind : OSNetworkSummary → Prop} {net : OSNetworkSummary} (first : FirstOf networks kind net) :
    net ∈ networks ∧ kind net := by
  obtain ⟨before, after, rfl, own, _⟩ := first
  exact ⟨List.mem_append_right _ List.mem_cons_self, own⟩

/-- A network without a name, which the second loop leaves out, is not like any name. -/
theorem alike_iff (blank : ∀ s, lower s = "" ↔ s = "") {net : OSNetworkSummary} (unnamed : ¬ net.named name) :
    (nonempty net.name).map lower = some (lower name) ↔ net.alike lower name := by
  unfold OSNetworkSummary.alike
  unfold OSNetworkSummary.named at unnamed
  cases own : net.name with
  | none => rfl
  | some text =>
    by_cases empty : text = ""
    · subst empty
      rw [own, Option.some.injEq] at unnamed
      have other : lower name ≠ "" := fun none => unnamed ((blank name).mp none).symm
      simp only [nonempty, if_true, Option.map_none, Option.map_some, (blank "").mpr rfl, Option.some.injEq, reduceCtorEq,
        false_iff]
      exact Ne.symm other
    · simp [nonempty, empty]

theorem alike_of_named {net : OSNetworkSummary} (named : net.named name) : net.alike lower name := by
  rw [OSNetworkSummary.alike, show net.name = some name from named]
  rfl

theorem mapNetwork_found (ar : Arithmetic F) (blank : ∀ s, lower s = "" ↔ s = "") (nic : VMNic) :
    NetworkFound ar lower networks nic.networkName (mapNetwork ar lower networks nic) := by
  unfold mapNetwork
  simp only
  split
  · rename_i net found
    exact .exact net (firstOf_of_find (fun _ => decide_eq_true_iff) found)
  · rename_i missing
    have unnamed : ∀ other ∈ networks, ¬ other.named nic.networkName := by
      intro other member named
      exact List.find?_eq_none.mp missing other member (decide_eq_true named)
    split
    · rename_i net found
      refine .caseInsensitive net unnamed ?_
      obtain ⟨before, after, rfl, own, others⟩ := firstOf_of_find (fun _ => decide_eq_true_iff) found
      refine ⟨before, after, rfl, ?_, fun other member alike => ?_⟩
      · exact (alike_iff blank (unnamed net (by simp))).mp own
      · exact others other member ((alike_iff blank (unnamed other (by simp [member]))).mpr alike)
    · rename_i missing
      refine .notFound (fun other member alike => ?_)
      exact List.find?_eq_none.mp missing other member
        (decide_eq_true ((alike_iff blank (unnamed other member)).mpr alike))

theorem NetworkFound.characterised {nic : VMNic} {r : NetworkMappingResult F}
    (found : NetworkFound ar lower networks nic.networkName r) : Characterised ar lower networks nic r := by
  refine ⟨found, ?_, ?_⟩
  · rintro ⟨net, member, named⟩
    cases found with
    | exact best first => exact ⟨rfl, first.mem.2⟩
    | caseInsensitive best unnamed first => exact absurd named (unnamed net member)
    | notFound unlike => exact absurd (alike_of_named named) (unlike net member)
  · intro missing
    cases found with
    | exact best first => exact absurd missing (by simp)
    | caseInsensitive best unnamed first => exact absurd missing (by simp)
    | notFound unlike => exact unlike

/-- One result for each card, in the order of the cards, and each is the one that the names call
for. Of `str.lower` it is used that it leaves no text empty but the empty one. -/
theorem networks_characterised (ar : Arithmetic F) {site : Site} {vm : VMSummary} {desk after : Desk}
    (blank : ∀ s, site.lower s = "" ↔ s = "") (loaded : getNetworks site desk = .ok networks after) :
    ∃ results t, mapNetworks ar site vm desk = .ok results t ∧
      List.Forall₂ (Characterised ar site.lower networks) vm.nics results := by
  unfold mapNetworks
  by_cases none : vm.nics.isEmpty = true
  · refine ⟨[], desk, by rw [if_pos none]; rfl, ?_⟩
    rw [List.isEmpty_iff.mp none]
    exact .nil
  · refine ⟨vm.nics.map (mapNetwork ar site.lower networks), after, ?_, ?_⟩
    · rw [if_neg none]
      change EStateM.bind _ _ desk = _
      rw [EStateM.bind, loaded]
      rfl
    · rw [List.forall₂_map_right_iff, List.forall₂_same]
      exact fun nic _ => (mapNetwork_found ar blank nic).characterised

end Mapping

/- A site with `str.lower`, as far as it concerns the letters of ASCII. -/
def loweringSite : Site := { smallSite with lower := String.toLower }

/- A network that differs in case before the one of the very name, and one without a name. -/
def threeNetworks : List OSNetworkSummary :=
  [⟨some "n-1", some "provider"⟩, ⟨some "n-2", none⟩, ⟨some "n-3", some "Provider"⟩]

def networkDesk : Desk := ⟨.initial, getVmwareInventoryService, ⟨none, some threeNetworks⟩⟩

def cardOn (networkName : String) : VMNic := ⟨"Network adapter 1", networkName, none, [], none⟩

def networkedVm (cards : List VMNic) : VMSummary where
  id := "vm-1"
  name := "web01"
  powerState := "poweredOn"
  guestOs := none
  hardware := some ⟨2, 1, 4096, [], cards⟩
  clusterName := none
  datastores := []
  tags := []
  annotation := none
  firmware := none
  secureBootEnabled := none
  vmwareToolsStatus := none
  diskControllerTypes := none

theorem exact_name_not_shadowed : ∃ first second t,
    mapNetworks .rational loweringSite (networkedVm [cardOn "Provider", cardOn "PROVIDER"]) networkDesk =
      .ok [first, second] t ∧ first.matchType = "exact_name" ∧
      NetworkFound .rational String.toLower threeNetworks "PROVIDER" second := by
  have blank : ∀ s, loweringSite.lower s = "" ↔ s = "" := fun s => String.map_eq_empty
  have loaded : getNetworks loweringSite networkDesk = .ok threeNetworks networkDesk := rfl
  obtain ⟨results, t, returned, each⟩ := @networks_characterised _ threeNetworks .rational loweringSite
    (networkedVm [cardOn "Provider", cardOn "PROVIDER"]) _ _ blank loaded
  cases each with
  | cons head rest =>
    cases rest with
    | cons next rest =>
      cases rest
      exact ⟨_, _, t, returned, (head.unshadowed ⟨⟨some "n-3", some "Provider"⟩, by simp [threeNetworks], rfl⟩).1,
        next.found⟩

end VMachine.VMware
