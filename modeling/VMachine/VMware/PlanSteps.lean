import VMachine.VMware.Networks
import VMachine.VMware.Plan

/-! The entry of a plan against the mapping it is built from. The lists of target ids, the steps and
their minutes are computed by loops of their own over the mapping, which ask different fields
whether something was found; for a mapping of the engine they agree. -/
namespace VMachine.VMware
open Py Effects OpenStack

/- The catalog has a network for the card: of that name, or of one that differs in case only. -/
def matched (lower : String → String) (networks : List OSNetworkSummary) (nic : VMNic) : Bool :=
  networks.any (fun net => decide (net.name = some nic.networkName ∨
    (nonempty net.name).map lower = some (lower nic.networkName)))

/- The resources of the steps of one action, in order. -/
def resourcesOf (action : String) (steps : List MigrationStep) : List (Option String) :=
  (steps.filter (fun step => decide (step.action = action))).map MigrationStep.resourceId

/- The network of the catalog is one for the card. -/
def OSNetworkSummary.suits (lower : String → String) (net : OSNetworkSummary) (nic : VMNic) : Prop :=
  net.name = some nic.networkName ∨ (nonempty net.name).map lower = some (lower nic.networkName)

/- The step is the one for this card: it names its network, and the network of the catalog if there is one. -/
def ForCard (lower : String → String) (networks : List OSNetworkSummary) (nic : VMNic) (step : MigrationStep) : Prop :=
  (∃ net ∈ networks, net.suits lower nic ∧ step.action = "verify_network" ∧ step.resourceId = net.id ∧
    step.description = "Map VMware network '" ++ nic.networkName ++ "' to OpenStack network '" ++
      ((nonempty net.name).getD "?") ++ "'") ∨
  ((∀ net ∈ networks, ¬ net.suits lower nic) ∧ step.action = "create_network" ∧ step.resourceId = none ∧
    step.description = "Create OpenStack network for VMware port group '" ++ nic.networkName ++ "'")

/- The step is the one for this disk: it names its size and its label. -/
def ForDisk (disk : VMDisk) (step : MigrationStep) : Prop :=
  step.action = "create_volume" ∧
    step.description = "Create " ++ toString disk.capacityGb ++ " GB volume for '" ++ disk.label ++ "'"

/- The steps of some actions, in order. -/
def stepsOf (actions : List String) (steps : List MigrationStep) : List MigrationStep :=
  steps.filter (fun step => decide (step.action ∈ actions))

/- What an entry owes to the VM, its mapping and the catalog. -/
structure PlannedConsistently {F : Type} (lower : String → String) (networks : List OSNetworkSummary) (vm : VMSummary)
    (mapping : VMMappingResult F) (entry : MigrationPlanVM) : Prop where
  orders : entry.steps.map MigrationStep.order = List.range' 1 entry.steps.length
  actions : entry.steps.map MigrationStep.action =
    mapping.flavorMatch.toList.map (fun _ => "verify_flavor") ++
    vm.nics.map (fun nic => if matched lower networks nic then "verify_network" else "create_network") ++
    vm.disks.map (fun _ => "create_volume") ++ ["import_image", "create_server", "cleanup"]
  cards : List.Forall₂ (ForCard lower networks) vm.nics (stepsOf ["verify_network", "create_network"] entry.steps)
  disks : List.Forall₂ ForDisk vm.disks (stepsOf ["create_volume"] entry.steps)
  flavor : entry.targetFlavorId.isSome = mapping.flavorMatch.isSome ∧
    resourcesOf "verify_flavor" entry.steps = entry.targetFlavorId.toList.map some
  verified : resourcesOf "verify_network" entry.steps = entry.targetNetworkIds.map some
  volumes : entry.targetVolumeTypes.length = (resourcesOf "create_volume" entry.steps).length
  minutes : entry.estimatedTotalMinutes =
    (if mapping.flavorMatch.isSome then 1 else 0) + vm.nics.countP (matched lower networks) +
    3 * vm.nics.countP (fun nic => !matched lower networks nic) +
    vm.disks.length + (if vm.disks.isEmpty then 0 else 1) + 21

section Numbering
variable {α : Type}

/- A step without its number. -/
def MigrationStep.plain (step : MigrationStep) : MigrationStep := { step with order := 0 }

theorem numbered_orders (steps : List MigrationStep) :
    (steps.mapIdx MigrationStep.numbered).map MigrationStep.order = List.range' 1 steps.length := by
  apply List.ext_getElem
  · simp
  · intro i _ _
    simp [MigrationStep.numbered, Nat.add_comm]

theorem numbered_plain (steps : List MigrationStep) :
    (steps.mapIdx MigrationStep.numbered).map MigrationStep.plain = steps.map MigrationStep.plain := by
  apply List.ext_getElem
  · simp
  · intro i _ _
    simp [MigrationStep.numbered, MigrationStep.plain]

theorem map_of_plain {f : MigrationStep → α} (blind : ∀ step, f step.plain = f step) (steps : List MigrationStep) :
    (steps.map MigrationStep.plain).map f = steps.map f := by
  rw [List.map_map]
  exact List.map_congr_left (fun step _ => blind step)

/-- What does not read the number is the same before numbering. -/
theorem numbered_map {f : MigrationStep → α} (blind : ∀ step, f step.plain = f step) (steps : List MigrationStep) :
    (steps.mapIdx MigrationStep.numbered).map f = steps.map f := by
  rw [← map_of_plain blind (steps.mapIdx _), numbered_plain, map_of_plain blind]

theorem resourcesOf_plain (action : String) (steps : List MigrationStep) :
    resourcesOf action (steps.map MigrationStep.plain) = resourcesOf action steps := by
  unfold resourcesOf
  rw [List.filter_map, List.map_map]
  rfl

theorem numbered_resources (action : String) (steps : List MigrationStep) :
    resourcesOf action (steps.mapIdx MigrationStep.numbered) = resourcesOf action steps := by
  rw [← resourcesOf_plain, numbered_plain, resourcesOf_plain]

theorem resourcesOf_append (action : String) (steps more : List MigrationStep) :
    resourcesOf action (steps ++ more) = resourcesOf action steps ++ resourcesOf action more := by
  simp [resourcesOf]

theorem resourcesOf_none {action : String} {steps : List MigrationStep} (others : ∀ step ∈ steps, step.action ≠ action) :
    resourcesOf action steps = [] := by
  have none : steps.filter (fun step => decide (step.action = action)) = [] :=
    List.filter_eq_nil_iff.mpr (fun step member => by simpa using others step member)
  rw [resourcesOf, none, List.map_nil]

theorem resourcesOf_all {action : String} {steps : List MigrationStep} (own : ∀ step ∈ steps, step.action = action) :
    resourcesOf action steps = steps.map MigrationStep.resourceId := by
  have all : steps.filter (fun step => decide (step.action = action)) = steps :=
    List.filter_eq_self.mpr (fun step member => by simpa using own step member)
  rw [resourcesOf, all]

theorem stepsOf_append (actions : List String) (steps more : List MigrationStep) :
    stepsOf actions (steps ++ more) = stepsOf actions steps ++ stepsOf actions more := by
  simp [stepsOf]

theorem stepsOf_plain (actions : List String) (steps : List MigrationStep) :
    (stepsOf actions steps).map MigrationStep.plain = stepsOf actions (steps.map MigrationStep.plain) := by
  unfold stepsOf
  rw [List.filter_map]
  rfl

theorem stepsOf_none {actions : List String} {steps : List MigrationStep} (others : ∀ step ∈ steps, step.action ∉ actions) :
    stepsOf actions steps = [] :=
  List.filter_eq_nil_iff.mpr (fun step member => by simpa using others step member)

theorem stepsOf_all {actions : List String} {steps : List MigrationStep} (own : ∀ step ∈ steps, step.action ∈ actions) :
    stepsOf actions steps = steps :=
  List.filter_eq_self.mpr (fun step member => by simpa using own step member)

/-- What is said of the steps without a look at the number holds of the numbered ones. -/
theorem numbered_forall₂ {R : α → MigrationStep → Prop} (blind : ∀ a step, R a step.plain ↔ R a step) {actions : List String}
    {as : List α} {steps : List MigrationStep} (holds : List.Forall₂ R as (stepsOf actions steps)) :
    List.Forall₂ R as (stepsOf actions (steps.mapIdx MigrationStep.numbered)) := by
  have plain {steps : List MigrationStep} : List.Forall₂ R as (steps.map MigrationStep.plain) ↔ List.Forall₂ R as steps := by
    rw [List.forall₂_map_right_iff]
    exact iff_of_eq (congrArg (fun S => List.Forall₂ S as steps) (funext₂ (fun a step => propext (blind a step))))
  rw [← plain, stepsOf_plain, numbered_plain, ← stepsOf_plain, plain]
  exact holds

end Numbering

section Cards
variable {F : Type} {ar : Arithmetic F} {lower : String → String} {networks : List OSNetworkSummary}

/-- A card is mapped to a network of the catalog, or to none if there is no match. -/
theorem mapNetwork_cases (nic : VMNic) :
    (matched lower networks nic = true ∧ ∃ net ∈ networks, (mapNetwork ar lower networks nic).openstackNetworkId = net.id ∧
      (mapNetwork ar lower networks nic).matchType ≠ "not_found") ∨
    (matched lower networks nic = false ∧ (mapNetwork ar lower networks nic).openstackNetworkId = none ∧
      (mapNetwork ar lower networks nic).matchType = "not_found") := by
  unfold mapNetwork
  simp only
  split
  · rename_i net found
    have member := List.mem_of_find?_eq_some found
    have named : net.name = some nic.networkName := by simpa using List.find?_some found
    exact .inl ⟨List.any_eq_true.mpr ⟨net, member, decide_eq_true (.inl named)⟩, net, member, rfl, by simp⟩
  · rename_i unnamed
    split
    · rename_i net found
      have member := List.mem_of_find?_eq_some found
      have alike : (nonempty net.name).map lower = some (lower nic.networkName) := by simpa using List.find?_some found
      exact .inl ⟨List.any_eq_true.mpr ⟨net, member, decide_eq_true (.inr alike)⟩, net, member, rfl, by simp⟩
    · rename_i unlike
      refine .inr ⟨?_, rfl, rfl⟩
      rw [matched, List.any_eq_false]
      intro net member either
      rcases of_decide_eq_true either with named | alike
      · exact List.find?_eq_none.mp unnamed net member (decide_eq_true named)
      · exact List.find?_eq_none.mp unlike net member (decide_eq_true alike)

/-- The step of a card is the one for it. -/
theorem networkStep_card (ar : Arithmetic F) (lower : String → String) (networks : List OSNetworkSummary) (nic : VMNic) :
    ForCard lower networks nic (networkStep (mapNetwork ar lower networks nic)) := by
  unfold mapNetwork
  simp only
  split
  · rename_i net found
    have named : net.name = some nic.networkName := by simpa using List.find?_some found
    exact .inl ⟨net, List.mem_of_find?_eq_some found, .inl named, by simp [networkStep]⟩
  · rename_i unnamed
    split
    · rename_i net found
      have alike : (nonempty net.name).map lower = some (lower nic.networkName) := by simpa using List.find?_some found
      exact .inl ⟨net, List.mem_of_find?_eq_some found, .inr alike, by simp [networkStep]⟩
    · rename_i unlike
      refine .inr ⟨?_, by simp [networkStep]⟩
      rintro net member (named | alike)
      · exact List.find?_eq_none.mp unnamed net member (decide_eq_true named)
      · exact List.find?_eq_none.mp unlike net member (decide_eq_true alike)

/-- The step of a card, by whether it is matched. -/
theorem networkStep_fields (ar : Arithmetic F) (lower : String → String) (networks : List OSNetworkSummary) (nic : VMNic) :
    (networkStep (mapNetwork ar lower networks nic)).action =
      (if matched lower networks nic then "verify_network" else "create_network") ∧
    (networkStep (mapNetwork ar lower networks nic)).resourceId = (mapNetwork ar lower networks nic).openstackNetworkId ∧
    (networkStep (mapNetwork ar lower networks nic)).estimatedMinutes = (if matched lower networks nic then 1 else 3) := by
  obtain ⟨found, _, _, _, named⟩ | ⟨missing, none, unnamed⟩ := @mapNetwork_cases F ar lower networks nic
  · simp [networkStep, named, found]
  · simp [networkStep, unnamed, missing, none]

end Cards

section Entry
variable {F : Type} {ar : Arithmetic F} {lower other : String → String} {networks : List OSNetworkSummary} {vm : VMSummary}
  {mapping : VMMappingResult F}

/- What `map_vm` makes of the cards and disks, with the catalog it has looked at. -/
structure Mapped (ar : Arithmetic F) (lower : String → String) (networks : List OSNetworkSummary) (vm : VMSummary)
    (mapping : VMMappingResult F) : Prop where
  cards : mapping.networkMappings = vm.nics.map (mapNetwork ar lower networks)
  disks : mapping.diskMappings = mapDisks vm

/- Every network of the catalog has an id. -/
def Identified (networks : List OSNetworkSummary) : Prop := ∀ net ∈ networks, ∃ id, net.id = some id ∧ id ≠ ""

/-- The steps before they are numbered. -/
theorem buildSteps_eq (mapped : Mapped ar lower networks vm mapping) :
    buildSteps vm (some mapping) = (mapping.flavorMatch.toList.map flavorStep ++
      vm.nics.map (fun nic => networkStep (mapNetwork ar lower networks nic)) ++
      (mapDisks vm).map volumeStep ++ lastSteps vm).mapIdx MigrationStep.numbered := by
  simp only [buildSteps, Option.bind_some, Option.map_some, Option.getD_some, mapped.cards, mapped.disks, List.map_map]
  rfl

theorem steps_actions (mapped : Mapped ar lower networks vm mapping) :
    (buildSteps vm (some mapping)).map MigrationStep.action =
      mapping.flavorMatch.toList.map (fun _ => "verify_flavor") ++
      vm.nics.map (fun nic => if matched lower networks nic then "verify_network" else "create_network") ++
      vm.disks.map (fun _ => "create_volume") ++ ["import_image", "create_server", "cleanup"] := by
  have cards : (vm.nics.map (fun nic => networkStep (mapNetwork ar lower networks nic))).map MigrationStep.action =
      vm.nics.map (fun nic => if matched lower networks nic then "verify_network" else "create_network") := by
    rw [List.map_map]
    exact List.map_congr_left (fun nic _ => (networkStep_fields ar lower networks nic).1)
  have disks : ((mapDisks vm).map volumeStep).map MigrationStep.action = vm.disks.map (fun _ => "create_volume") := by
    have one : ∀ dm ∈ mapDisks vm, (MigrationStep.action ∘ volumeStep) dm = "create_volume" := fun _ _ => rfl
    rw [List.map_map, List.map_congr_left one, List.map_const', List.map_const', mapDisks, List.length_mapIdx]
  rw [buildSteps_eq mapped, numbered_map (fun _ => rfl)]
  simp only [List.map_append, cards, disks, List.map_map]
  rfl

/-- Of the numbered steps, those of some actions. -/
theorem steps_parts {actions : List String} {α : Type} {R : α → MigrationStep → Prop} {as : List α}
    (mapped : Mapped ar lower networks vm mapping) (blind : ∀ a step, R a step.plain ↔ R a step)
    (early : ∀ last ∈ ["verify_flavor", "import_image", "create_server", "cleanup"], last ∉ actions)
    (holds : List.Forall₂ R as (stepsOf actions (vm.nics.map (fun nic => networkStep (mapNetwork ar lower networks nic)) ++
      (mapDisks vm).map volumeStep))) :
    List.Forall₂ R as (stepsOf actions (buildSteps vm (some mapping))) := by
  have first : stepsOf actions (mapping.flavorMatch.toList.map flavorStep) = [] := by
    refine stepsOf_none (fun step member => ?_)
    obtain ⟨fm, _, rfl⟩ := List.mem_map.mp member
    exact early "verify_flavor" (by simp)
  have last : stepsOf actions (lastSteps vm) = [] :=
    stepsOf_none (fun step member => early step.action (List.mem_cons_of_mem _ (List.mem_map_of_mem member)))
  rw [buildSteps_eq mapped]
  refine numbered_forall₂ blind ?_
  rw [stepsOf_append, last, List.append_nil, List.append_assoc, stepsOf_append, first, List.nil_append]
  exact holds

/-- One step for each card, in the order of the cards. -/
theorem steps_cards (mapped : Mapped ar lower networks vm mapping) :
    List.Forall₂ (ForCard lower networks) vm.nics
      (stepsOf ["verify_network", "create_network"] (buildSteps vm (some mapping))) := by
  refine steps_parts mapped (fun _ _ => Iff.rfl) (by decide) ?_
  have cards : ∀ step ∈ vm.nics.map (fun nic => networkStep (mapNetwork ar lower networks nic)),
      step.action ∈ ["verify_network", "create_network"] := by
    intro step member
    obtain ⟨nic, _, rfl⟩ := List.mem_map.mp member
    rw [(networkStep_fields ar lower networks nic).1]
    split <;> decide
  have disks : ∀ step ∈ (mapDisks vm).map volumeStep, step.action ∉ ["verify_network", "create_network"] := by
    intro step member
    obtain ⟨dm, _, rfl⟩ := List.mem_map.mp member
    change "create_volume" ∉ _
    decide
  rw [stepsOf_append, stepsOf_all cards, stepsOf_none disks, List.append_nil, List.forall₂_map_right_iff, List.forall₂_same]
  exact fun nic _ => networkStep_card ar lower networks nic

/-- One step for each disk, in the order of the disks. -/
theorem steps_disks (mapped : Mapped ar lower networks vm mapping) :
    List.Forall₂ ForDisk vm.disks (stepsOf ["create_volume"] (buildSteps vm (some mapping))) := by
  refine steps_parts mapped (fun _ _ => Iff.rfl) (by decide) ?_
  have cards : ∀ step ∈ vm.nics.map (fun nic => networkStep (mapNetwork ar lower networks nic)),
      step.action ∉ ["create_volume"] := by
    intro step member
    obtain ⟨nic, _, rfl⟩ := List.mem_map.mp member
    rw [(networkStep_fields ar lower networks nic).1]
    split <;> decide
  have disks : ∀ step ∈ (mapDisks vm).map volumeStep, step.action ∈ ["create_volume"] := by
    intro step member
    obtain ⟨dm, _, rfl⟩ := List.mem_map.mp member
    exact List.mem_singleton_self _
  rw [stepsOf_append, stepsOf_none cards, stepsOf_all disks, List.nil_append, List.forall₂_map_right_iff, mapDisks,
    List.forall₂_iff_get]
  refine ⟨List.length_mapIdx.symm, fun i _ _ => ?_⟩
  simp [ForDisk, volumeStep, diskMapping]

section Resources
variable {action : String}

theorem flavor_others (other : "verify_flavor" ≠ action) (flavors : List (FlavorMatchResult F)) :
    resourcesOf action (flavors.map flavorStep) = [] :=
  resourcesOf_none (by simp [flavorStep, other])

theorem card_others (verified : "verify_network" ≠ action) (created : "create_network" ≠ action) (nics : List VMNic) :
    resourcesOf action (nics.map (fun nic => networkStep (mapNetwork ar lower networks nic))) = [] := by
  refine resourcesOf_none (fun step member => ?_)
  obtain ⟨nic, _, rfl⟩ := List.mem_map.mp member
  rw [(networkStep_fields ar lower networks nic).1]
  split
  · exact verified
  · exact created

theorem volume_others (other : "create_volume" ≠ action) (disks : List DiskMappingResult) :
    resourcesOf action (disks.map volumeStep) = [] :=
  resourcesOf_none (by simp [volumeStep, other])

/-- The resources of an action that is none of the last ones. -/
theorem steps_resources (mapped : Mapped ar lower networks vm mapping)
    (early : ∀ last ∈ ["import_image", "create_server", "cleanup"], last ≠ action) :
    resourcesOf action (buildSteps vm (some mapping)) = resourcesOf action (mapping.flavorMatch.toList.map flavorStep) ++
      (resourcesOf action (vm.nics.map (fun nic => networkStep (mapNetwork ar lower networks nic))) ++
        resourcesOf action ((mapDisks vm).map volumeStep)) := by
  have last : resourcesOf action (lastSteps vm) = [] := by
    refine resourcesOf_none (fun step member => early step.action ?_)
    exact List.mem_map_of_mem member
  rw [buildSteps_eq mapped, numbered_resources, resourcesOf_append, resourcesOf_append, resourcesOf_append, last,
    List.append_nil, List.append_assoc]

end Resources

theorem flavor_resources (mapped : Mapped ar lower networks vm mapping) :
    resourcesOf "verify_flavor" (buildSteps vm (some mapping)) =
      mapping.flavorMatch.toList.map (fun fm => some fm.flavorId) := by
  rw [steps_resources mapped (by decide), card_others (by decide) (by decide), volume_others (by decide),
    List.append_nil, List.append_nil, resourcesOf_all (by simp [flavorStep]), List.map_map]
  rfl

/-- The networks that are verified are those that the cards have been mapped to. -/
theorem card_resources (identified : Identified networks) (nics : List VMNic) :
    resourcesOf "verify_network" (nics.map (fun nic => networkStep (mapNetwork ar lower networks nic))) =
      ((nics.map (mapNetwork ar lower networks)).filterMap (fun nm => nonempty nm.openstackNetworkId)).map some := by
  induction nics with
  | nil => rfl
  | cons nic nics ih =>
    obtain ⟨action, resource, _⟩ := networkStep_fields ar lower networks nic
    have split : resourcesOf "verify_network" ((nic :: nics).map (fun nic => networkStep (mapNetwork ar lower networks nic))) =
        resourcesOf "verify_network" [networkStep (mapNetwork ar lower networks nic)] ++
        resourcesOf "verify_network" (nics.map (fun nic => networkStep (mapNetwork ar lower networks nic))) := by
      rw [← resourcesOf_append]
      rfl
    rw [split, ih, List.map_cons, List.filterMap_cons]
    obtain ⟨found, net, member, own, _⟩ | ⟨missing, none, _⟩ := @mapNetwork_cases F ar lower networks nic
    · obtain ⟨id, given, some_id⟩ := identified net member
      have kept : nonempty (mapNetwork ar lower networks nic).openstackNetworkId = some id := by
        rw [own]
        exact nonempty_eq_some.mpr ⟨given, some_id⟩
      rw [found] at action
      rw [resourcesOf_all (by simpa using action), kept]
      simp [resource, own, given]
    · rw [missing] at action
      rw [resourcesOf_none (by simp [action]), none]
      rfl

theorem network_resources (mapped : Mapped ar lower networks vm mapping) (identified : Identified networks) :
    resourcesOf "verify_network" (buildSteps vm (some mapping)) =
      (mapping.networkMappings.filterMap (fun nm => nonempty nm.openstackNetworkId)).map some := by
  rw [steps_resources mapped (by decide), flavor_others (by decide), volume_others (by decide), List.append_nil,
    List.nil_append, card_resources identified, mapped.cards]

theorem volume_resources (mapped : Mapped ar lower networks vm mapping) :
    (resourcesOf "create_volume" (buildSteps vm (some mapping))).length = vm.disks.length := by
  rw [steps_resources mapped (by decide), flavor_others (by decide), card_others (by decide) (by decide),
    List.nil_append, List.nil_append, resourcesOf_all (by simp [volumeStep])]
  simp [mapDisks]

theorem card_minutes (nics : List VMNic) :
    ((nics.map (fun nic => networkStep (mapNetwork ar lower networks nic))).map MigrationStep.estimatedMinutes).sum =
      nics.countP (matched lower networks) + 3 * nics.countP (fun nic => !matched lower networks nic) := by
  induction nics with
  | nil => rfl
  | cons nic nics ih =>
    rw [List.map_cons, List.map_cons, List.sum_cons, ih, (networkStep_fields ar lower networks nic).2.2,
      List.countP_cons, List.countP_cons]
    cases matched lower networks nic <;> simp <;> omega

/-- A disk takes a minute, and the first one another. -/
theorem disk_minutes (disks : List VMDisk) :
    (((disks.mapIdx diskMapping).map volumeStep).map MigrationStep.estimatedMinutes).sum =
      disks.length + (if disks.isEmpty then 0 else 1) := by
  cases disks with
  | nil => rfl
  | cons disk disks =>
    have ones : ((disks.mapIdx (fun i => diskMapping (i + 1))).map volumeStep).map MigrationStep.estimatedMinutes =
        List.replicate disks.length 1 := by
      refine List.eq_replicate_iff.mpr ⟨by simp, fun minutes member => ?_⟩
      obtain ⟨step, inside, rfl⟩ := List.mem_map.mp member
      obtain ⟨dm, there, rfl⟩ := List.mem_map.mp inside
      obtain ⟨i, _, rfl⟩ := List.mem_mapIdx.mp there
      simp [volumeStep, diskMapping]
    rw [List.mapIdx_cons, List.map_cons, List.map_cons, List.sum_cons, ones]
    simp [volumeStep, diskMapping]
    omega

theorem steps_minutes (mapped : Mapped ar lower networks vm mapping) :
    ((buildSteps vm (some mapping)).map MigrationStep.estimatedMinutes).sum =
      (if mapping.flavorMatch.isSome then 1 else 0) + vm.nics.countP (matched lower networks) +
      3 * vm.nics.countP (fun nic => !matched lower networks nic) +
      vm.disks.length + (if vm.disks.isEmpty then 0 else 1) + 21 := by
  have flavors : ((mapping.flavorMatch.toList.map flavorStep).map MigrationStep.estimatedMinutes).sum =
      if mapping.flavorMatch.isSome then 1 else 0 := by
    cases mapping.flavorMatch with
    | none => rfl
    | some fm => rfl
  have last : ((lastSteps vm).map MigrationStep.estimatedMinutes).sum = 21 := rfl
  rw [buildSteps_eq mapped, numbered_map (fun _ => rfl)]
  simp only [List.map_append, List.sum_append, flavors, card_minutes, mapDisks, disk_minutes, last]
  omega

/-- Every disk gets a volume type. -/
theorem volume_types (vm : VMSummary) :
    ((mapDisks vm).filterMap (fun dm => nonempty dm.openstackVolumeType)).length = vm.disks.length := by
  have typed : ∀ dm ∈ mapDisks vm, nonempty dm.openstackVolumeType = dm.openstackVolumeType ∧
      dm.openstackVolumeType.isSome = true := by
    intro dm member
    obtain ⟨i, _, rfl⟩ := List.mem_mapIdx.mp member
    simp only [diskMapping]
    split
    · exact ⟨by decide, rfl⟩
    · exact ⟨by decide, rfl⟩
  have same : (mapDisks vm).length = vm.disks.length := List.length_mapIdx
  rw [← same, List.length_filterMap_eq_countP, List.countP_eq_length]
  intro dm member
  rw [(typed dm member).1]
  exact (typed dm member).2

theorem planned_consistent {overrides : List (String × Int)} {entry : MigrationPlanVM}
    (mapped : Mapped ar lower networks vm mapping) (identified : Identified networks)
    (planned : planVm other overrides vm (some mapping) = .ok entry) : PlannedConsistently lower networks vm mapping entry := by
  unfold planVm at planned
  simp only at planned
  split at planned
  · cases planned
    constructor
    case orders =>
      have numbered : ∃ steps : List MigrationStep, buildSteps vm (some mapping) = steps.mapIdx MigrationStep.numbered :=
        ⟨_, buildSteps_eq mapped⟩
      obtain ⟨steps, same⟩ := numbered
      simp only [same, numbered_orders, List.length_mapIdx]
    case actions => exact steps_actions mapped
    case cards => exact steps_cards mapped
    case disks => exact steps_disks mapped
    case flavor =>
      refine ⟨by simp, ?_⟩
      rw [flavor_resources mapped]
      simp only [Option.bind_some]
      cases mapping.flavorMatch with
      | none => rfl
      | some fm => rfl
    case verified => exact network_resources mapped identified
    case volumes =>
      rw [volume_resources mapped]
      simp only [Option.map_some, Option.getD_some, mapped.disks]
      exact volume_types vm
    case minutes => exact steps_minutes mapped
  · contradiction

end Entry

section Engine
variable {F : Type} (ar : Arithmetic F) (site : Site)

/-- The catalog is kept once it has been looked up. -/
theorem getNetworks_kept (desk : Desk) : wp (getNetworks site) desk
    (fun networks t => t.mappingEngine.networkCache = some networks) (fun _ _ => True) := by
  unfold getNetworks
  rw [wp_bind, wp_get]
  split
  · assumption
  · refine wp_then (fun _ _ => trivial) ?_
    intro raw t
    refine wp_then (fun _ _ => trivial) ?_
    intro networks t
    rw [wp_bind, wp_modify]
    rfl

theorem mapNetworks_kept (vm : VMSummary) (desk : Desk) : wp (mapNetworks ar site vm) desk
    (fun results t => results = vm.nics.map (mapNetwork ar site.lower (t.mappingEngine.networkCache.getD [])))
    (fun _ _ => True) := by
  unfold mapNetworks
  rw [wp_ite]
  split
  · rename_i none
    rw [wp_pure, List.isEmpty_iff.mp none]
    rfl
  · rw [wp_bind]
    refine wp_mono (getNetworks_kept site desk) ?_ (fun _ _ _ => trivial)
    intro networks t kept
    rw [wp_pure, kept]
    rfl

theorem mapVm_mapped (vm : VMSummary) (desk : Desk) : wp (mapVm ar site vm) desk
    (fun mapping t => Mapped ar site.lower (t.mappingEngine.networkCache.getD []) vm mapping) (fun _ _ => True) := by
  refine wp_then (fun _ _ => trivial) ?_
  intro flavor t
  rw [wp_bind]
  refine wp_mono (mapNetworks_kept ar site vm t) ?_ (fun _ _ _ => trivial)
  intro results t cards
  exact ⟨cards, rfl⟩

variable {ar site}

/-- The entry of a VM agrees with its mapping, whatever is mapped, as long as every network that
the engine has looked up has an id. -/
theorem plan_entry_consistent {lower : String → String} {overrides : List (String × Int)} {vm : VMSummary}
    {mapping : VMMappingResult F} {desk after : Desk} {entry : MigrationPlanVM}
    (mapped : mapVm ar site vm desk = .ok mapping after)
    (identified : Identified (after.mappingEngine.networkCache.getD []))
    (planned : planVm lower overrides vm (some mapping) = .ok entry) :
    PlannedConsistently site.lower (after.mappingEngine.networkCache.getD []) vm mapping entry := by
  have engine : Mapped ar site.lower (after.mappingEngine.networkCache.getD []) vm mapping :=
    (wp_iff_of_ok mapped).mp (mapVm_mapped ar site vm desk)
  exact planned_consistent engine identified planned

end Engine

/- A disk, a card on a network that is there and one on a network that is not. -/
def connectedVm : VMSummary :=
  { networkedVm [cardOn "PROVIDER", cardOn "backup"] with
    hardware := some ⟨2, 1, 4096, [⟨"Hard disk 1", 40, true, none, none⟩], [cardOn "PROVIDER", cardOn "backup"]⟩ }

theorem connected_entry_consistent : ∃ mapping after entry,
    mapVm .rational loweringSite connectedVm networkDesk = .ok mapping after ∧
    planVm id [] connectedVm (some mapping) = .ok entry ∧
    PlannedConsistently loweringSite.lower threeNetworks connectedVm mapping entry := by
  have looked : wp (mapVm .rational loweringSite connectedVm) networkDesk
      (fun _ t => t.mappingEngine.networkCache = some threeNetworks) (fun _ _ => False) := by
    decide +kernel
  obtain ⟨mapping, after, mapped, kept⟩ := wp_iff_exists_ok.mp looked
  have identified : Identified (after.mappingEngine.networkCache.getD []) := by
    rw [kept]
    simp [Identified, threeNetworks]
  refine ⟨mapping, after, _, mapped, rfl, ?_⟩
  have consistent := plan_entry_consistent mapped identified (rfl : planVm id [] connectedVm (some mapping) = _)
  rwa [kept] at consistent

end VMachine.VMware
