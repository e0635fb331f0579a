import VMachine.VMware.ParallelAccounts

/-! The parallel and the sequential assessment, side by side. Over an inventory and catalogs
that do not change, what becomes of an id can be read off them. Both loops compute just
that, whatever their caches hold of the catalogs at the time. -/
namespace VMachine.VMware
open Py Effects OpenStack

/- What vCenter and OpenStack have: VMs, flavors and networks. -/
structure Catalogs where
  inventory : List VirtualMachine
  flavors : Reply
  networks : Reply

section Reading
variable {F : Type} (ar : Arithmetic F) (lower : String → String) (cat : Catalogs)

def Catalogs.vms : Except Exc (List VMSummary) :=
  cat.inventory.mapM (fun vm => raised (buildVmSummary lower vm))

def Catalogs.flavorMatch (vm : VMSummary) : Except Exc (Option (FlavorMatchResult F)) :=
  match vm.hardware with
  | none => pure none
  | some hw => do
    let flavors ← comprehend osFlavorSummary cat.flavors
    nearestFlavor ar ⟨hw.cpuCount, hw.memoryMb, vm.totalDisk⟩ flavors

def Catalogs.networkMappings (vm : VMSummary) : Except Exc (List (NetworkMappingResult F)) :=
  if vm.nics.isEmpty then pure []
  else do
    let networks ← comprehend osNetworkSummary cat.networks
    return vm.nics.map (mapNetwork ar lower networks)

def Catalogs.mapping (vm : VMSummary) : Except Exc (VMMappingResult F) := do
  let flavorMatch ← cat.flavorMatch ar vm
  let networkMappings ← cat.networkMappings ar lower vm
  return ⟨vm.id, vm.name, flavorMatch, networkMappings, mapDisks vm⟩

def Catalogs.mapIf (includeMapping : Bool) (vm : VMSummary) : Except Exc (Option (VMMappingResult F)) := do
  if includeMapping then
    let mapping ← cat.mapping ar lower vm
    return some mapping
  else return none

def Catalogs.vm (vmId : String) : Except Exc (Option VMSummary) := do
  let vms ← cat.vms lower
  return vms.find? (fun vm => vm.id == vmId)

/- The VM of that id with its compatibility and its mapping, if there is one. -/
def Catalogs.assess (includeMapping : Bool) (vmId : String) : Except Exc (Option (AssessmentResult F)) := do
  match ← cat.vm lower vmId with
  | none => return none
  | some vm =>
    let mapping ← cat.mapIf ar lower includeMapping vm
    return some ⟨vm.id, vm.name, evaluate ar lower vm, mapping⟩

def Catalogs.assessEach (includeMapping : Bool) : List String → Except Exc (List (AssessmentResult F))
  | [] => return []
  | vmId :: vmIds => do
    let assessment ← cat.assess ar lower includeMapping vmId
    let rest ← Catalogs.assessEach includeMapping vmIds
    return assessment.toList ++ rest

/- The assessment of an id that can be assessed. -/
def Catalogs.verdict (includeMapping : Bool) (vmId : String) : Option (AssessmentResult F) :=
  match cat.assess ar lower includeMapping vmId with
  | .ok assessment => assessment
  | .error _ => none

end Reading

/- Whenever vCenter and OpenStack answer, they answer from the catalogs. -/
structure Steady (site : Site) (cat : Catalogs) : Prop where
  vcenter : ∀ n vms, site.vcenter n = .ok vms → vms = cat.inventory
  flavors : ∀ n reply, (site.env.sdk n ⟨"compute", "flavors", [], []⟩).result = .ok reply → reply = cat.flavors
  networks : ∀ n reply, (site.env.sdk n ⟨"network", "networks", [], []⟩).result = .ok reply → reply = cat.networks

/- What the services have cached is in the catalogs. -/
structure Coherent (site : Site) (cat : Catalogs) (desk : Desk) : Prop where
  vms : ∀ entry, desk.inventory.vmCache.store.lookup "vms" = some entry → cat.vms site.lower = .ok entry.value
  flavors : ∀ flavors, desk.mappingEngine.flavorCache = some flavors →
    comprehend osFlavorSummary cat.flavors = .ok flavors
  networks : ∀ networks, desk.mappingEngine.networkCache = some networks →
    comprehend osNetworkSummary cat.networks = .ok networks

section Specs
variable {F : Type} {ar : Arithmetic F} {site : Site} {cat : Catalogs}

theorem Coherent.elsewhere {desk : Desk} (coherent : Coherent site cat desk) (world : World) :
    Coherent site cat { desk with world := world } := ⟨coherent.vms, coherent.flavors, coherent.networks⟩

/-- A fresh service has nothing cached. -/
theorem coherent_fresh (world : World) :
    Coherent site cat ⟨world, getVmwareInventoryService, getVmwareMappingEngine⟩ where
  vms _ found := nomatch found
  flavors _ found := nomatch found
  networks _ found := nomatch found

theorem computes_liftExcept {α : Type} {I : Desk → Prop} (value : Except Exc α) :
    Computes I (liftExcept value) value := by
  cases value with
  | ok a => exact computes_pure a
  | error exc => exact computes_throw exc _

theorem vmCacheGet_spec {desk : Desk} (coherent : Coherent site cat desk) :
    wp (vmCacheGet site "vms") desk
      (fun found t => (∀ vms, found = some vms → cat.vms site.lower = .ok vms) ∧ Coherent site cat t)
      (fun _ t => Coherent site cat t) := by
  simp only [vmCacheGet, wp_bind, wp_inWorld, ask, wp_get, wp_set, wp_pure]
  constructor
  · intro vms found
    obtain ⟨entry, stored, same, _⟩ := Cache.TTLCache.get_found found
    rw [← same]
    exact coherent.vms entry stored
  · refine ⟨?_, coherent.flavors, coherent.networks⟩
    intro entry stored
    cases Cache.TTLCache.get_lookup (site.env.wall desk.world.tick) "vms" desk.inventory.vmCache
        desk.world.cache.counters with
    | inl kept => exact coherent.vms entry (kept.symm.trans stored)
    | inr erased => exact absurd (erased.symm.trans stored) (by simp)

/-- A catalog that is fetched, summarized and cached. -/
theorem fetch_computes {β : Type} {summary : Val → Except Exc β} {service operation : String} {catalog : Reply}
    (answers : ∀ n reply, (site.env.sdk n ⟨service, operation, [], []⟩).result = .ok reply → reply = catalog)
    {cache : List β → Desk → Desk} (kept : ∀ items, comprehend summary catalog = .ok items → ∀ desk,
      Coherent site cat desk → Coherent site cat (cache items desk)) :
    Computes (Coherent site cat) (do
      let raw ← inWorld (call site.env service operation [] [])
      let items ← liftExcept (comprehend summary raw)
      modify (cache items)
      return items) (comprehend summary catalog) := by
  intro desk coherent
  simp only [wp_bind, wp_inWorld]
  refine wp_mono (call_answered _ _ _ _) ?_ (fun _ w _ => coherent.elsewhere w)
  rintro raw w ⟨n, _, _, answer⟩
  cases answers n raw answer
  refine wp_mono (computes_liftExcept _ _ (coherent.elsewhere w)) ?_ (fun _ _ kept => kept)
  rintro items t ⟨found, coherent⟩
  exact ⟨found, kept items found t coherent⟩

variable (steady : Steady site cat)
include steady

theorem listVms_computes : Computes (Coherent site cat) (listVms site) (cat.vms site.lower) := by
  intro desk coherent
  rw [listVms, wp_bind]
  refine wp_mono (vmCacheGet_spec coherent) ?_ (fun _ _ kept => kept)
  rintro found desk ⟨cached, coherent⟩
  cases found with
  | some vms => exact ⟨cached vms rfl, coherent⟩
  | none =>
    simp only [wp_bind, wp_inWorld, ask, wp_get, wp_set, wp_pure]
    cases answer : site.vcenter desk.world.tick with
    | error exc => exact coherent.elsewhere _
    | ok rawVms =>
      cases steady.vcenter _ _ answer
      simp only [wp_liftExcept_ok]
      cases built : cat.vms site.lower with
      | error exc =>
        rw [Catalogs.vms] at built
        rw [built]
        exact coherent.elsewhere _
      | ok items =>
        have all := built
        rw [Catalogs.vms] at built
        rw [built]
        simp only [wp_liftExcept_ok, vmCacheSet, wp_bind, wp_inWorld, ask, wp_get, wp_set, wp_pure, wp_modify]
        refine ⟨trivial, ?_, coherent.flavors, coherent.networks⟩
        intro entry stored
        have inserted : some (⟨items, _⟩ : Cache.Entry (List VMSummary)) = some entry :=
          (AList.lookup_insert desk.inventory.vmCache.store).symm.trans stored
        cases inserted
        exact all

theorem getVm_computes (vmId : String) :
    Computes (Coherent site cat) (getVm site vmId) (cat.vm site.lower vmId) :=
  computes_bind (listVms_computes steady) (fun _ _ => computes_pure _)

theorem getFlavors_computes :
    Computes (Coherent site cat) (getFlavors site) (comprehend osFlavorSummary cat.flavors) := by
  intro desk coherent
  rw [getFlavors, wp_bind, wp_get]
  cases cached : desk.mappingEngine.flavorCache with
  | some flavors => exact ⟨coherent.flavors flavors cached, coherent⟩
  | none =>
    refine fetch_computes steady.flavors ?_ desk coherent
    intro flavors found t kept
    refine ⟨kept.vms, ?_, kept.networks⟩
    intro other same
    exact found.trans (congrArg _ (Option.some.inj same))

theorem getNetworks_computes :
    Computes (Coherent site cat) (getNetworks site) (comprehend osNetworkSummary cat.networks) := by
  intro desk coherent
  rw [getNetworks, wp_bind, wp_get]
  cases cached : desk.mappingEngine.networkCache with
  | some networks => exact ⟨coherent.networks networks cached, coherent⟩
  | none =>
    refine fetch_computes steady.networks ?_ desk coherent
    intro networks found t kept
    refine ⟨kept.vms, kept.flavors, ?_⟩
    intro other same
    exact found.trans (congrArg _ (Option.some.inj same))

theorem matchFlavor_computes (vm : VMSummary) :
    Computes (Coherent site cat) (matchFlavor ar site vm) (cat.flavorMatch ar vm) := by
  unfold matchFlavor Catalogs.flavorMatch
  cases vm.hardware with
  | none => exact computes_pure none
  | some hw => exact computes_bind (getFlavors_computes steady) (fun flavors _ => computes_liftExcept _)

theorem mapNetworks_computes (vm : VMSummary) :
    Computes (Coherent site cat) (mapNetworks ar site vm) (cat.networkMappings ar site.lower vm) := by
  unfold mapNetworks Catalogs.networkMappings
  split
  · exact computes_pure []
  · exact computes_bind (getNetworks_computes steady) (fun networks _ => computes_pure _)

theorem mapVm_computes (vm : VMSummary) :
    Computes (Coherent site cat) (mapVm ar site vm) (cat.mapping ar site.lower vm) :=
  computes_bind (matchFlavor_computes steady vm) (fun _ _ =>
    computes_bind (mapNetworks_computes steady vm) (fun _ _ => computes_pure _))

theorem mapIf_computes (includeMapping : Bool) (vm : VMSummary) :
    Computes (Coherent site cat) (mapIf ar site includeMapping vm) (cat.mapIf ar site.lower includeMapping vm) := by
  cases includeMapping with
  | true => exact computes_bind (mapVm_computes steady vm) (fun _ _ => computes_pure _)
  | false => exact computes_pure none

/-- One round of the sequential loop computes what the catalogs say of the id. -/
theorem assessVm_computes (includeMapping : Bool) (vmId : String) :
    Computes (Coherent site cat) (assessVm ar site includeMapping vmId)
      (cat.assess ar site.lower includeMapping vmId) := by
  refine computes_bind (getVm_computes steady vmId) (fun found _ => ?_)
  cases found with
  | none => exact computes_pure none
  | some vm => exact computes_bind (mapIf_computes steady includeMapping vm) (fun _ _ => computes_pure _)

theorem assessEach_computes (includeMapping : Bool) (vmIds : List String) :
    Computes (Coherent site cat) (assessEach ar site includeMapping vmIds)
      (cat.assessEach ar site.lower includeMapping vmIds) := by
  induction vmIds with
  | nil => exact computes_pure []
  | cons vmId vmIds ih =>
    exact computes_bind (assessVm_computes steady includeMapping vmId) (fun _ _ =>
      computes_bind ih (fun _ _ => computes_pure _))

end Specs

/- What a result of the parallel assessment says of its VM. -/
def SingleVMResult.assessment {F : Type} (r : SingleVMResult F) : Option (AssessmentResult F) :=
  match r.status, r.compatibilityResult with
  | .completed, some compatibility => some ⟨r.vmId, r.vmName, compatibility, r.mappingResult⟩
  | _, _ => none

/- The result says what the catalogs say, and says it failed when there is no such VM. -/
structure Faithful {F : Type} (ar : Arithmetic F) (site : Site) (cat : Catalogs) (includeMapping : Bool)
    (r : SingleVMResult F) : Prop where
  assessed : cat.assess ar site.lower includeMapping r.vmId = .ok r.assessment
  completed : r.isCompleted = r.assessment.isSome
  failed : decide (r.status = .failed) = r.assessment.isNone

section Evaluations
variable {F : Type} {ar : Arithmetic F} {site : Site} {cat : Catalogs}

/-- An evaluation that returns has computed what the catalogs say of the id. -/
theorem evaluateSingle_faithful (steady : Steady site cat) {desk : Desk} (coherent : Coherent site cat desk)
    (includeMapping : Bool) (vmId : String) :
    wp (evaluateSingle ar site vmId includeMapping) desk
      (fun r t => Faithful ar site cat includeMapping r ∧ Coherent site cat t)
      (fun _ t => Coherent site cat t) := by
  rw [evaluateSingle, wp_bind]
  refine wp_mono (wp_and (getVm_own vmId desk) (getVm_computes steady vmId desk coherent)) ?_ (fun _ _ kept => kept.2)
  rintro found desk ⟨own, value, coherent⟩
  cases found with
  | none =>
    refine ⟨⟨?_, rfl, rfl⟩, coherent⟩
    rw [Catalogs.assess, value]
    rfl
  | some vm =>
    obtain rfl := own vm rfl
    rw [wp_bind]
    refine wp_mono (mapIf_computes steady includeMapping vm desk coherent) ?_ (fun _ _ kept => kept)
    rintro mapping desk ⟨mapped, coherent⟩
    simp only [wp_bind, wp_inWorld, ask, wp_get, wp_set, wp_pure]
    refine ⟨⟨?_, rfl, rfl⟩, coherent.elsewhere _⟩
    rw [Catalogs.assess, value]
    show (cat.mapIf ar site.lower includeMapping vm >>= _) = _
    rw [mapped]
    rfl

/- No evaluation expires, and the one that is let run returns. -/
def smoothly (ar : Arithmetic F) (site : Site) (s : Session F) : Event → Bool
  | .expire _ => false
  | .evaluate i =>
    match s.evaluations[i]? with
    | some ev =>
      match evaluateSingle ar site ev.vmId s.includeMapping s.desk with
      | .ok _ _ => true
      | .error _ _ => false
    | none => true
  | _ => true

/- Coherent caches and faithful results. -/
structure Agreeing (ar : Arithmetic F) (site : Site) (cat : Catalogs) (s : Session F) : Prop where
  coherent : Coherent site cat s.desk
  faithful : ∀ r ∈ s.results ++ s.done, Faithful ar site cat s.includeMapping r

variable {s t : Session F}

theorem smoothly_returns {i : Nat} {ev : Evaluation} (smooth : smoothly ar site s (.evaluate i) = true)
    (here : s.evaluations[i]? = some ev) :
    ∃ r desk, evaluateSingle ar site ev.vmId s.includeMapping s.desk = .ok r desk := by
  simp only [smoothly, here] at smooth
  split at smooth
  · rename_i r desk ran
    exact ⟨r, desk, ran⟩
  · contradiction

theorem Faithful.timed {includeMapping : Bool} {r : SingleVMResult F}
    (faithful : Faithful ar site cat includeMapping r) (duration : F) : Faithful ar site cat includeMapping { r with durationMs := duration } :=
  ⟨faithful.assessed, faithful.completed, faithful.failed⟩

/-- Both attempts end alike when the evaluation returns. -/
theorem Agreeing.evaluated (steady : Steady site cat) (agreeing : Agreeing ar site cat s) {i : Nat} {ev : Evaluation}
    {r : SingleVMResult F} {desk : Desk} (ran : evaluateSingle ar site ev.vmId s.includeMapping s.desk = .ok r desk)
    (duration : F) : Agreeing ar site cat ((s.put desk).finish i ev { r with durationMs := duration }) := by
  have done := wp_of_ok (evaluateSingle_faithful steady agreeing.coherent s.includeMapping ev.vmId) ran
  refine ⟨done.2, ?_⟩
  intro other member
  simp only [Session.finish, Session.move, Session.put, ← List.append_assoc] at member
  cases List.mem_append.mp member with
  | inl earlier => exact agreeing.faithful other earlier
  | inr new =>
    cases List.mem_singleton.mp new
    exact done.1.timed duration

theorem Agreeing.coroutine (steady : Steady site cat) (agreeing : Agreeing ar site cat s) {event : Event} {i : Nat}
    {ev : Evaluation} (unexpired : ∀ i, event ≠ .expire i)
    (returns : ∀ i, event = .evaluate i →
      ∃ r desk, evaluateSingle ar site ev.vmId s.includeMapping s.desk = .ok r desk)
    (next : s.coroutine ar site event i ev = some t) : Agreeing ar site cat t := by
  unfold Session.coroutine at next
  split at next
  · split at next
    · cases next
      exact ⟨agreeing.coherent, agreeing.faithful⟩
    · contradiction
  · obtain ⟨r, desk, ran⟩ := returns _ rfl
    cases next
    rw [Session.attempt, ran]
    exact agreeing.evaluated steady ran _
  · obtain ⟨r, desk, ran⟩ := returns _ rfl
    cases next
    rw [Session.retry, ran]
    exact agreeing.evaluated steady ran _
  · exact absurd rfl (unexpired _)
  · exact absurd rfl (unexpired _)
  · contradiction

theorem Agreeing.await {α : Type} (agreeing : Agreeing ar site cat s) (m : M α) (next : α → CallPhase) :
    Agreeing ar site cat (s.await m next) := by
  unfold Session.await
  split
  · exact ⟨agreeing.coherent.elsewhere _, agreeing.faithful⟩
  · exact ⟨agreeing.coherent.elsewhere _, agreeing.faithful⟩

theorem Agreeing.record (agreeing : Agreeing ar site cat s)
    (write : ParallelAssessmentProgress → ParallelAssessmentProgress) : Agreeing ar site cat (s.record write) := by
  unfold Session.record
  split
  · exact ⟨agreeing.coherent, agreeing.faithful⟩
  · exact ⟨agreeing.coherent, agreeing.faithful⟩

theorem Agreeing.proceed (agreeing : Agreeing ar site cat s) (next : s.proceed site = some t) :
    Agreeing ar site cat t := by
  obtain ⟨α, m, after, rfl, _, _⟩ | ⟨task, _, taken⟩ := proceed_cases next
  · exact agreeing.await m after
  · obtain ⟨single, rest, ready, rfl⟩ | ⟨_, _, rfl⟩ := taken
    · have taken : Agreeing ar site cat (s.take single rest) := by
        refine ⟨agreeing.coherent, ?_⟩
        have faithful := agreeing.faithful
        rw [ready] at faithful
        simpa [Session.take] using faithful
      exact taken.record _
    · have stored : Agreeing ar site cat (s.store task) := ⟨agreeing.coherent, agreeing.faithful⟩
      exact stored.record _

theorem Agreeing.step (steady : Steady site cat) (agreeing : Agreeing ar site cat s) {event : Event}
    (smooth : smoothly ar site s event = true) (next : s.step ar site event = some t) : Agreeing ar site cat t := by
  obtain ⟨_, next⟩ | ⟨world, _, rfl⟩ | ⟨i, ev, task, which, _, here, next⟩ := step_cases next
  · exact agreeing.proceed next
  · exact ⟨agreeing.coherent.elsewhere world, agreeing.faithful⟩
  · refine agreeing.coroutine steady ?_ ?_ next
    · rintro j rfl
      contradiction
    · rintro j rfl
      obtain acquires | evaluates | expires := which
      · contradiction
      · cases evaluates
        exact smoothly_returns smooth here
      · contradiction

end Evaluations

/- What is compared: the id, the compatibility and the mapping. -/
def SingleVMResult.outcome {F : Type} (r : SingleVMResult F) :
    String × Option (ScoredCompatibilityResult F) × Option (VMMappingResult F) :=
  (r.vmId, r.compatibilityResult, r.mappingResult)

def AssessmentResult.outcome {F : Type} (a : AssessmentResult F) :
    String × Option (ScoredCompatibilityResult F) × Option (VMMappingResult F) :=
  (a.vmId, some a.compatibility, a.mapping)

section Comparison
variable {F : Type} {ar : Arithmetic F} {site : Site} {cat : Catalogs} {includeMapping : Bool}

theorem Faithful.verdict {r : SingleVMResult F} (faithful : Faithful ar site cat includeMapping r) :
    cat.verdict ar site.lower includeMapping r.vmId = r.assessment := by
  rw [Catalogs.verdict, faithful.assessed]

theorem assessment_outcome {r : SingleVMResult F} {a : AssessmentResult F} (some_assessment : r.assessment = some a) :
    a.outcome = r.outcome ∧ a.vmId = r.vmId := by
  unfold SingleVMResult.assessment at some_assessment
  split at some_assessment
  · rename_i compatibility status result
    cases some_assessment
    exact ⟨by rw [AssessmentResult.outcome, SingleVMResult.outcome, result], rfl⟩
  · contradiction

/-- The completed results, read off the ids. -/
theorem completed_outcomes {results : List (SingleVMResult F)}
    (faithful : ∀ r ∈ results, Faithful ar site cat includeMapping r) :
    (results.filter SingleVMResult.isCompleted).map SingleVMResult.outcome =
      ((results.map SingleVMResult.vmId).filterMap (cat.verdict ar site.lower includeMapping)).map
        AssessmentResult.outcome := by
  induction results with
  | nil => rfl
  | cons r results ih =>
    have first := faithful r (by simp)
    have rest := ih (fun other member => faithful other (List.mem_cons_of_mem r member))
    cases found : r.assessment with
    | none =>
      have out : r.isCompleted = false := by rw [first.completed, found]; rfl
      simp [out, first.verdict, found, rest]
    | some a =>
      have inside : r.isCompleted = true := by rw [first.completed, found]; rfl
      simp [inside, first.verdict, found, rest, (assessment_outcome found).1]

theorem failed_ids {results : List (SingleVMResult F)}
    (faithful : ∀ r ∈ results, Faithful ar site cat includeMapping r) :
    (results.filter (fun r => decide (r.status = .failed))).map SingleVMResult.vmId =
      (results.map SingleVMResult.vmId).filter (fun vmId => (cat.verdict ar site.lower includeMapping vmId).isNone) := by
  induction results with
  | nil => rfl
  | cons r results ih =>
    have first := faithful r (by simp)
    have rest := ih (fun other member => faithful other (List.mem_cons_of_mem r member))
    rw [List.filter_cons, first.failed, List.map_cons, List.filter_cons, first.verdict]
    split
    · rw [List.map_cons, rest]
    · exact rest

/-- The VM that is found has the id. -/
theorem verdict_own {vmId : String} {a : AssessmentResult F}
    (found : cat.verdict ar site.lower includeMapping vmId = some a) : a.vmId = vmId := by
  unfold Catalogs.verdict Catalogs.assess Catalogs.vm at found
  cases vms : cat.vms site.lower with
  | error exc => simp [vms, bind, Except.bind] at found
  | ok items =>
    cases present : items.find? (fun vm => vm.id == vmId) with
    | none => simp [vms, present, bind, Except.bind, pure, Except.pure] at found
    | some vm =>
      have own : vm.id = vmId := by simpa using List.find?_some present
      cases mapped : cat.mapIf ar site.lower includeMapping vm with
      | error exc => simp [vms, present, mapped, bind, Except.bind, pure, Except.pure] at found
      | ok mapping =>
        simp only [vms, present, mapped, bind, Except.bind, pure, Except.pure, Option.some.injEq] at found
        rw [← found]
        exact own

theorem assessed_ids (vmIds : List String) :
    (vmIds.filterMap (cat.verdict ar site.lower includeMapping)).map AssessmentResult.vmId =
      vmIds.filter (fun vmId => (cat.verdict ar site.lower includeMapping vmId).isSome) := by
  induction vmIds with
  | nil => rfl
  | cons vmId vmIds ih =>
    cases found : cat.verdict ar site.lower includeMapping vmId with
    | none => simp [found, ih]
    | some a => simp [found, ih, verdict_own found]

theorem assessEach_verdicts {vmIds : List String} {assessments : List (AssessmentResult F)}
    (all : cat.assessEach ar site.lower includeMapping vmIds = .ok assessments) :
    assessments = vmIds.filterMap (cat.verdict ar site.lower includeMapping) := by
  induction vmIds generalizing assessments with
  | nil =>
    cases all
    rfl
  | cons vmId vmIds ih =>
    rw [Catalogs.assessEach] at all
    cases first : cat.assess ar site.lower includeMapping vmId with
    | error exc => simp [first, bind, Except.bind] at all
    | ok assessment =>
      cases rest : cat.assessEach ar site.lower includeMapping vmIds with
      | error exc => simp [first, rest, bind, Except.bind] at all
      | ok others =>
        simp only [first, rest, bind, Except.bind, pure, Except.pure, Except.ok.injEq] at all
        have verdict : cat.verdict ar site.lower includeMapping vmId = assessment := by
          rw [Catalogs.verdict, first]
        rw [← all, ih rest, List.filterMap_cons, verdict]
        cases assessment <;> rfl

/-- The sequential endpoint answers with the verdicts on its ids. -/
theorem assessVms_verdicts (steady : Steady site cat) {desk desk' : Desk} (coherent : Coherent site cat desk)
    {vmIds : List String} {response : AssessmentResponse F}
    (returned : assessVms ar site vmIds desk = .ok response desk') :
    response.assessments = vmIds.filterMap (cat.verdict ar site.lower true) := by
  have answers : wp (assessVms ar site vmIds) desk
      (fun response _ => response.assessments = vmIds.filterMap (cat.verdict ar site.lower true))
      (fun _ _ => True) := by
    unfold assessVms
    split
    · trivial
    · rw [wp_bind, wp_inWorld]
      refine wp_mono (wp_true _ _) ?_ (fun _ _ _ => trivial)
      intro task w _
      rw [wp_bind, wp_inWorld]
      refine wp_mono (wp_true _ _) ?_ (fun _ _ _ => trivial)
      intro _ w _
      rw [wp_tryCatch, wp_bind]
      refine wp_mono (assessEach_computes steady true vmIds _ (coherent.elsewhere w)) ?_ ?_
      · rintro assessments t ⟨value, _⟩
        rw [wp_bind, wp_inWorld]
        refine wp_mono (wp_true _ _) ?_ ?_
        · intro _ w _
          exact assessEach_verdicts value
        · intro exc w _
          exact wp_mono (raises_then (fun _ => raises_throw exc) _) (fun _ _ never => never.elim)
            (fun _ _ _ => trivial)
      · intro exc t _
        exact wp_mono (raises_then (fun _ => raises_throw exc) _) (fun _ _ never => never.elim) (fun _ _ _ => trivial)
  have listed := wp_of_ok answers returned
  exact listed

/-- Where no evaluation raises or expires, the parallel assessment completes with the outcomes
that the sequential one returns, and fails for the ids that the sequential one leaves out. -/
theorem parallel_agrees_with_sequential (steady : Steady site cat) {service : ParallelAssessmentService F}
    {world : World} {desk desk' : Desk}
    (coherent : Coherent site cat ⟨world, service.inventory, service.mappingEngine⟩)
    (coherent' : Coherent site cat desk) {vmIds : List String} {maxConcurrency timeoutSeconds : Nat}
    {events : List Event} {s : Session F} {response : AssessmentResponse F}
    (run : Runs.exec (Session.step ar site)
      (assessParallel site service world vmIds true maxConcurrency timeoutSeconds) events = some s)
    (smooth : Runs.Along (Session.step ar site) (fun s event => smoothly ar site s event = true)
      (assessParallel site service world vmIds true maxConcurrency timeoutSeconds) events)
    (ended : s.phase = .returned) (returned : assessVms ar site vmIds desk = .ok response desk') :
    ∃ results, s.service.getResults s.taskId = some results ∧
      ((results.filter SingleVMResult.isCompleted).map SingleVMResult.outcome).Perm
        (response.assessments.map AssessmentResult.outcome) ∧
      ((results.filter (fun r => decide (r.status = .failed))).map SingleVMResult.vmId ++
        response.assessments.map AssessmentResult.vmId).Perm vmIds := by
  obtain ⟨books, ids, mapped, _⟩ := run_accounted run
  have start : Agreeing ar site cat (assessParallel site service world vmIds true maxConcurrency timeoutSeconds) :=
    ⟨coherent.elsewhere _, fun _ member => (List.not_mem_nil member).elim⟩
  have agreeing := Runs.invariant_along (Session.step ar site) (I := Agreeing ar site cat)
    (fun s event t agreeing smooth next => agreeing.step steady smooth next) start smooth run
  have concluded : s.phase.concluded = true := by rw [ended]; rfl
  obtain ⟨all, stored⟩ := books.stored concluded
  have faithful : ∀ r ∈ s.results, Faithful ar site cat true r := by
    intro r member
    rw [← mapped]
    exact agreeing.faithful r (List.mem_append_left _ member)
  have same : (s.results.map SingleVMResult.vmId).Perm vmIds := by
    have conserved := books.conserved
    rw [List.map_append, List.append_assoc, ids] at conserved
    exact perm_of_length conserved (by simpa [ids] using all)
  have verdicts := assessVms_verdicts steady coherent' returned
  refine ⟨s.results, stored, ?_, ?_⟩
  · rw [completed_outcomes faithful, verdicts]
    exact (same.filterMap _).map _
  · rw [failed_ids faithful, verdicts, assessed_ids]
    refine ((same.filter _).append_right _).trans ?_
    have parts := List.filter_append_perm (fun vmId => (cat.verdict ar site.lower true vmId).isNone) vmIds
    simpa using parts

end Comparison

/- A VM that is there twice and one that is not, in another order than asked for. -/
def smoothRun : List Event :=
  [.proceed, .proceed, .acquire 2, .acquire 1, .evaluate 1, .evaluate 2, .acquire 0, .proceed, .evaluate 0, .proceed,
    .proceed, .proceed, .proceed]

def smoothIds : List String := ["vm-1", "vm-9", "vm-1"]

theorem smallSite_steady : Steady smallSite ⟨[webMachine], siteFlavors, siteNetworks⟩ where
  vcenter _ _ answer := (Except.ok.inj answer).symm
  flavors _ _ answer := (Except.ok.inj answer).symm
  networks _ _ answer := (Except.ok.inj answer).symm

theorem three_assessments_agree :
    ∃ (s : Session ℚ) (response : AssessmentResponse ℚ) (results : List (SingleVMResult ℚ)),
      Runs.exec (Session.step .rational smallSite)
        (assessParallel smallSite getParallelAssessmentService .initial smoothIds true 2 300) smoothRun = some s ∧
      s.service.getResults s.taskId = some results ∧
      ((results.filter SingleVMResult.isCompleted).map SingleVMResult.outcome).Perm
        (response.assessments.map AssessmentResult.outcome) ∧
      ((results.filter (fun r => decide (r.status = .failed))).map SingleVMResult.vmId ++
        response.assessments.map AssessmentResult.vmId).Perm smoothIds := by
  have ends : (Runs.exec (Session.step .rational smallSite)
      (assessParallel smallSite getParallelAssessmentService .initial smoothIds true 2 300) smoothRun).map
      Session.phase = some .returned := by decide +kernel
  obtain ⟨s, run, ended⟩ := Option.map_eq_some_iff.mp ends
  have smooth : Runs.Along (Session.step .rational smallSite)
      (fun s event => smoothly .rational smallSite s event = true)
      (assessParallel smallSite getParallelAssessmentService .initial smoothIds true 2 300) smoothRun := by
    decide +kernel
  have answers : (match assessVms .rational smallSite smoothIds
      ⟨.initial, getVmwareInventoryService, getVmwareMappingEngine⟩ with
      | .ok _ _ => true
      | .error _ _ => false) = true := by decide +kernel
  cases returned : assessVms .rational smallSite smoothIds
      ⟨.initial, getVmwareInventoryService, getVmwareMappingEngine⟩ with
  | error exc desk =>
    rw [returned] at answers
    exact (Bool.false_ne_true answers).elim
  | ok response desk =>
    obtain ⟨results, stored, outcomes, ids⟩ := parallel_agrees_with_sequential smallSite_steady (coherent_fresh _)
      (coherent_fresh _) run smooth ended returned
    exact ⟨s, response, results, run, stored, outcomes, ids⟩

end VMachine.VMware
