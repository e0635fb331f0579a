import VMachine.OpenStack.Coherence
import VMachine.OpenStack.Networking

/-! The lists of networks, volumes and images over sequential runs. They are cached as the list of
servers is, by one and the same function; and what changes one of them invalidates it behind its last
request, with one exception: the snapshot of a server is a new image, and the list of images stays. -/
namespace VMachine.OpenStack.Listings
open Py Effects

def volumeSummarySchema : Schema where
  name := "VolumeSummary"
  fields := [optionalStr "id", optionalStr "name", optionalStr "status", optional "size" .int, optionalStr "bootable",
    optionalStr "operation_task_id"]

def volumeCreateRequestSchema : Schema where
  name := "VolumeCreateRequest"
  fields := [resourceName, atLeast 1 "size" none, optionalStr "description", optionalStr "image_id"]

def volumeData (volume : Val) : List (String × Val) :=
  serializeResource volume ["id", "name", "status", "size", "bootable"]

def imageData (image : Val) : List (String × Val) :=
  serializeResource image ["id", "name", "status", "visibility", "size", "created_at"]

section Services
variable (env : Env)

/- What the four cached lists have in common: a cached list is returned as it is, and any other is
fetched, serialized and put into the cache. -/
def cachedList (resource service operation : String) (serialize : Val → Except Exc Obj) : M Listing := do
  match ← cacheGet env resource with
  | some cached => return cached
  | none =>
    let before ← get
    let found ← call env service operation [] [("limit", .int env.listLimit)]
    let items ← ofExcept (comprehend serialize found)
    let result : Listing := ⟨items.map .model, before.log.length⟩
    cacheSet env resource result
    return result

theorem listServers_eq : listServers env = cachedList env "servers" "compute" "servers" serializeServerSummary := rfl

theorem listNetworks_eq : listNetworks env =
    cachedList env "networks" "network" "networks" (fun net => validate networkSummarySchema (networkData net)) := rfl

def listVolumes : M Listing :=
  cachedList env "volumes" "block_storage" "volumes" (fun volume => validate volumeSummarySchema (volumeData volume))

def listImages : M Listing :=
  cachedList env "images" "image" "images" (fun image => validate imageSummarySchema (imageData image))

def getVolume (volumeId : String) : M Any := do
  build volumeSummarySchema
    (volumeData (← lookupOr404 env "block_storage" "get_volume" volumeId "Volume not found" "volume_not_found"))

def deleteVolume (volumeId : Any) : M Any := do
  deleteOr404 env "block_storage" "delete_volume" "Volume not found" "volume_not_found" volumeId
  cacheInvalidate env "volumes"
  return .val .none

def createVolume (payload : Any) : M Any := do
  let name ← payload.getattr "name"
  let size ← payload.getattr "size"
  let description ← payload.getattr "description"
  let imageId ← payload.getattr "image_id"
  let volume ← call env "block_storage" "create_volume" []
    ([("name", name), ("size", size)] ++ ifTruthy "description" description ++ ifTruthy "image" imageId)
  cacheInvalidate env "volumes"
  build volumeSummarySchema (volumeData volume.value)

end Services

/- The three lists. -/
inductive Resource where
  | networks
  | volumes
  | images
  deriving Repr, DecidableEq

def Resource.key : Resource → String
  | .networks => "networks"
  | .volumes => "volumes"
  | .images => "images"

inductive Op where
  | list (resource : Resource)
  | server (op : OpenStack.Op)
  | createNetwork (payload : Any)
  | deleteNetwork (networkId : Any)
  | createVolume (payload : Any)
  | deleteVolume (volumeId : Any)
  | createImage (payload : Any)
  | deleteImage (imageId : Any)
  | snapshot (serverId name : String)

/- What changes one of the lists and takes account of it. An attachment changes the status of the volume. A snapshot,
which leaves the list of images as it was, is not among them. -/
def Op.changes : Op → Option Resource
  | .createNetwork _ | .deleteNetwork _ => some .networks
  | .createVolume _ | .deleteVolume _ | .server (.attachVolume _ _) | .server (.detachVolume _ _) => some .volumes
  | .createImage _ | .deleteImage _ => some .images
  | _ => none

def listOf (env : Env) : Resource → M Listing
  | .networks => listNetworks env
  | .volumes => listVolumes env
  | .images => listImages env

def act (env : Env) : Op → M Unit
  | .list resource => do let _ ← listOf env resource
  | .server .listServers => do let _ ← listServers env
  | .server op => mutate env op
  | .createNetwork payload => do let _ ← OpenStack.createNetwork env payload
  | .deleteNetwork networkId => do let _ ← OpenStack.deleteNetwork env networkId
  | .createVolume payload => do let _ ← Listings.createVolume env payload
  | .deleteVolume volumeId => do let _ ← Listings.deleteVolume env volumeId
  | .createImage payload => do let _ ← OpenStack.createImage env payload
  | .deleteImage imageId => do let _ ← OpenStack.deleteImage env imageId
  | .snapshot serverId name => do let _ ← createServerImage env serverId name

/- The answers of the list requests, each with when its list was last changed. -/
structure Session where
  world : World
  changedAt : Resource → Nat
  answers : List Answer

def Session.start (w : World) : Session := ⟨w, fun _ => 0, []⟩

def perform (env : Env) (s : Session) : Op → Option Session
  | .list resource =>
    match listOf env resource s.world with
    | .ok listing t => some ⟨t, s.changedAt, s.answers ++ [⟨s.changedAt resource, listing.fetchedAt⟩]⟩
    | .error _ t => some ⟨t, s.changedAt, s.answers⟩
  | op =>
    match act env op s.world with
    | .ok _ t => some ⟨t, fun r => if op.changes = some r then t.log.length else s.changedAt r, s.answers⟩
    | .error _ t => some ⟨t, s.changedAt, s.answers⟩

/- Every command to the cache is carried out: it is in memory, or Redis always answers. -/
def Reached (env : Env) (w : World) : Prop := ∀ n, w.cache.reaches (env.redisUp n) = true

section Still
variable {env : Env}

/- Nothing is put into the cache under the key, and the cache is reached as before. -/
def still (key : String) : Frame World where
  rel s t := (t.cache.peek key = s.cache.peek key ∨ t.cache.peek key = none) ∧
    (∀ ok, t.cache.reaches ok = s.cache.reaches ok) ∧ s.log.length ≤ t.log.length
  refl _ := ⟨.inl rfl, fun _ => rfl, Nat.le_refl _⟩
  trans := by
    rintro s t u ⟨peek, reaches, log⟩ ⟨peek', reaches', log'⟩
    refine ⟨?_, fun ok => (reaches' ok).trans (reaches ok), Nat.le_trans log log'⟩
    obtain same | gone := peek'
    · rw [same]
      exact peek
    · exact .inr gone

variable {key : String}

theorem still_inert : Inert env (fun _ => True) (still key) where
  asked _ := ⟨.inl rfl, fun _ => rfl, Nat.le_refl _⟩
  passed _ _ := (still key).refl _
  connected _ := (still key).refl _
  issued w n request _ := ⟨.inl rfl, fun _ => rfl, by simp⟩
  audited _ _ := (still key).refl _
  measured _ _ := (still key).refl _

theorem call_still (service operation : String) (args : List Val) (kwargs : List (String × Val)) :
    Frames (still key) (call env service operation args kwargs) :=
  call_frames still_inert.toSilent service args kwargs trivial

theorem cacheInvalidate_still (resource : String) : Frames (still key) (cacheInvalidate env resource) := by
  intro w
  simp only [cacheInvalidate, ask, wp_bind, wp_get, wp_set, wp_pure, wp_modify]
  exact ⟨Cache.cacheInvalidate_peek _ _ _ _, Cache.cacheInvalidate_reaches _ _ _, Nat.le_refl _⟩

theorem cacheGet_still (resource : String) : Frames (still key) (cacheGet env resource) := by
  intro w
  simp only [cacheGet, ask, wp_bind, wp_get, wp_set, wp_pure]
  exact ⟨Cache.cacheGet_peek _ _ _ _ _, (Cache.cacheGet_touches _ _ _ _).reaches, Nat.le_refl _⟩

theorem cacheSet_still {resource : String} (apart : key ≠ resource) (listing : Listing) :
    Frames (still key) (cacheSet env resource listing) := by
  intro w
  simp only [cacheSet, ask, wp_bind, wp_get, wp_set, wp_pure, wp_modify]
  have touches := Cache.cacheSet_touches (env.redisUp w.tick) (env.wall w.tick) Listing.json resource listing w.cache
  exact ⟨.inl (touches.peek_other apart), touches.reaches, Nat.le_refl _⟩

/-- A list is put into the cache under its own key only. -/
theorem cachedList_still {resource service operation : String} {serialize : Val → Except Exc Obj} (apart : key ≠ resource) :
    Frames (still key) (cachedList env resource service operation serialize) := by
  refine frames_bind (cacheGet_still _) (fun found => ?_)
  split
  · exact frames_pure _
  · refine frames_bind frames_get (fun _ => frames_bind (call_still _ _ _ _) (fun _ => ?_))
    exact frames_bind (ofExcept_frames _) (fun _ => frames_bind (cacheSet_still apart _) (fun _ => frames_pure _))

theorem fault_still {α : Type} (exc : Exc) : Frames (still key) (fault exc : M α) :=
  frames_bind (frames_modify (fun _ => (still key).refl _)) (fun _ => frames_throw _)

theorem getattr_still (payload : Any) (name : String) : Frames (still key) (payload.getattr name) := by
  unfold Any.getattr
  split
  · exact fault_still _
  · split
    · exact frames_pure _
    · exact fault_still _

theorem build_still (schema : Schema) (kwargs : List (String × Val)) : Frames (still key) (build schema kwargs) :=
  frames_bind (ofExcept_frames _) (fun _ => frames_pure _)

theorem deleteOr404_still (service operation message code : String) (id : Any) :
    Frames (still key) (deleteOr404 env service operation message code id) := by
  refine frames_bind (call_still _ _ _ _) (fun deleted => ?_)
  split
  · exact frames_throw _
  · exact frames_pure _

theorem checkFree_still (operation kind code : String) (name : Val) :
    Frames (still key) (checkFree env operation kind code name) :=
  frames_bind (call_still _ _ _ _) (fun _ => frames_ite _ (frames_throw _) (frames_pure _))

theorem lookupOr404_still (service operation id message code : String) :
    Frames (still key) (lookupOr404 env service operation id message code) :=
  frames_bind (call_still _ _ _ _) (fun _ => frames_ite _ (frames_pure _) (frames_throw _))

/- Nothing is put into the cache, and nothing is left under the key on return. -/
structure Clears (env : Env) (key : String) {α : Type} (m : M α) : Prop where
  still : ∀ other, Frames (Listings.still other) m
  cleared : ∀ w, Reached env w → wp m w (fun _ t => t.cache.peek key = none) (fun _ _ => True)

theorem clears_after {α β : Type} {m : M α} {f : α → M β} (first : ∀ other, Frames (still other) m)
    (rest : ∀ a, Clears env key (f a)) : Clears env key (m >>= f) := by
  refine ⟨fun other => frames_bind (first other) (fun a => (rest a).still other), fun w reached => ?_⟩
  rw [wp_bind]
  refine wp_mono (first key w) ?_ (fun _ _ _ => trivial)
  rintro a t ⟨_, reaches, _⟩
  exact (rest a).cleared t (fun n => (reaches _).trans (reached n))

theorem clears_before {α β : Type} {m : M α} {f : α → M β} (first : Clears env key m)
    (rest : ∀ other a, Frames (still other) (f a)) : Clears env key (m >>= f) := by
  refine ⟨fun other => frames_bind (first.still other) (rest other), fun w reached => ?_⟩
  rw [wp_bind]
  refine wp_mono (first.cleared w reached) ?_ (fun _ _ _ => trivial)
  intro a t none
  refine wp_mono (rest key a t) ?_ (fun _ _ _ => trivial)
  rintro b u ⟨peek, _⟩
  exact peek.elim (fun same => same.trans none) id

theorem clears_throw {α : Type} (exc : Exc) : Clears env key (throw exc : M α) := ⟨fun _ => frames_throw exc, fun _ _ => trivial⟩

theorem cacheInvalidate_clears : Clears env key (cacheInvalidate env key) := by
  refine ⟨fun _ => cacheInvalidate_still key, fun w reached => ?_⟩
  simp only [cacheInvalidate, ask, wp_bind, wp_get, wp_set, wp_pure, wp_modify]
  exact Cache.cacheInvalidate_gone (reached w.tick)

theorem createNetwork_clears (payload : Any) : Clears env "networks" (OpenStack.createNetwork env payload) := by
  refine clears_after (fun _ => getattr_still _ _) (fun _ => clears_after (fun _ => checkFree_still _ _ _ _) (fun _ => ?_))
  refine clears_after (fun _ => call_still _ _ _ _) (fun _ => clears_after (fun _ => ofExcept_frames _) (fun _ => ?_))
  refine clears_after (fun _ => getattr_still _ _) (fun _ => clears_after (fun _ => call_still _ _ _ _) (fun _ => ?_))
  exact clears_before cacheInvalidate_clears (fun _ _ => build_still _ _)

theorem deleteNetwork_clears (networkId : Any) : Clears env "networks" (OpenStack.deleteNetwork env networkId) :=
  clears_after (fun _ => deleteOr404_still _ _ _ _ _) (fun _ => clears_before cacheInvalidate_clears (fun _ _ => frames_pure _))

theorem createVolume_clears (payload : Any) : Clears env "volumes" (Listings.createVolume env payload) := by
  refine clears_after (fun _ => getattr_still _ _) (fun _ => clears_after (fun _ => getattr_still _ _) (fun _ => ?_))
  refine clears_after (fun _ => getattr_still _ _) (fun _ => clears_after (fun _ => getattr_still _ _) (fun _ => ?_))
  refine clears_after (fun _ => call_still _ _ _ _) (fun _ => ?_)
  exact clears_before cacheInvalidate_clears (fun _ _ => build_still _ _)

theorem deleteVolume_clears (volumeId : Any) : Clears env "volumes" (Listings.deleteVolume env volumeId) :=
  clears_after (fun _ => deleteOr404_still _ _ _ _ _) (fun _ => clears_before cacheInvalidate_clears (fun _ _ => frames_pure _))

theorem deleteImage_clears (imageId : Any) : Clears env "images" (OpenStack.deleteImage env imageId) :=
  clears_after (fun _ => call_still _ _ _ _) (fun _ => clears_before cacheInvalidate_clears (fun _ _ => frames_pure _))

theorem createImage_clears (payload : Any) : Clears env "images" (OpenStack.createImage env payload) := by
  refine clears_after (fun _ => getattr_still _ _) (fun _ => clears_after (fun _ => getattr_still _ _) (fun _ => ?_))
  refine clears_after (fun _ => getattr_still _ _) (fun _ => clears_after (fun _ => getattr_still _ _) (fun _ => ?_))
  refine clears_after (fun _ => getattr_still _ _) (fun _ => clears_after (fun _ => getattr_still _ _) (fun _ => ?_))
  refine clears_after (fun _ => getattr_still _ _) (fun _ => clears_after (fun _ => getattr_still _ _) (fun _ => ?_))
  refine clears_after (fun _ => call_still _ _ _ _) (fun _ => ?_)
  exact clears_before cacheInvalidate_clears (fun _ _ => build_still _ _)

theorem attachVolume_clears (serverId volumeId : String) : Clears env "volumes" (attachVolume env serverId volumeId) := by
  refine clears_after (fun _ => lookupOr404_still _ _ _ _ _) (fun _ => clears_after (fun _ => lookupOr404_still _ _ _ _ _) (fun _ => ?_))
  refine clears_after (fun _ => ofExcept_frames _) (fun _ => clears_after (fun _ => call_still _ _ _ _) (fun _ => ?_))
  exact clears_after (fun _ => cacheInvalidate_still _) (fun _ => cacheInvalidate_clears)

theorem detachVolume_clears (serverId volumeId : String) : Clears env "volumes" (detachVolume env serverId volumeId) := by
  refine clears_after (fun _ => lookupOr404_still _ _ _ _ _) (fun _ => clears_after (fun _ => call_still _ _ _ _) (fun _ => ?_))
  refine clears_after (fun _ => ofExcept_frames _) (fun found => ?_)
  split
  · exact clears_throw _
  · refine clears_after (fun _ => call_still _ _ _ _) (fun _ => ?_)
    exact clears_after (fun _ => cacheInvalidate_still _) (fun _ => cacheInvalidate_clears)

/-- No server operation puts one of the lists into the cache. -/
theorem mutate_still (op : OpenStack.Op) : Frames (still key) (mutate env op) := by
  have discard {α : Type} {m : M α} (frames : Frames (still key) m) : Frames (still key) (do let _ ← m) :=
    frames_bind frames (fun _ => frames_pure _)
  have request (serverId operation : String) (args : List Val) :
      Frames (still key) (serverRequest env serverId operation args) :=
    frames_bind (lookupOr404_still _ _ _ _ _) (fun _ => frames_bind (call_still _ _ _ _) (fun _ => frames_pure _))
  cases op with
  | listServers => exact frames_pure _
  | createServer payload =>
    refine discard (frames_bind (lookupOr404_still _ _ _ _ _) (fun _ => frames_bind (lookupOr404_still _ _ _ _ _) (fun _ => ?_)))
    refine frames_bind (lookupOr404_still _ _ _ _ _) (fun _ => frames_bind ?_ (fun _ => ?_))
    · unfold checkKeypair
      split
      · exact frames_bind (lookupOr404_still _ _ _ _ _) (fun _ => frames_pure _)
      · exact frames_pure _
    · refine frames_bind (call_still _ _ _ _) (fun server => frames_bind ?_ (fun _ => ?_))
      · exact frames_ite _ (call_still _ _ _ _) (frames_pure _)
      · exact frames_bind (cacheInvalidate_still _) (fun _ => ofExcept_frames _)
  | performAction serverId action =>
    refine discard (frames_bind (lookupOr404_still _ _ _ _ _) (fun server => ?_))
    split
    · exact frames_throw _
    · exact frames_bind (call_still _ _ _ _) (fun _ => frames_pure _)
  | deleteServer serverId =>
    refine frames_bind (call_still _ _ _ _) (fun deleted => ?_)
    split
    · exact frames_throw _
    · exact cacheInvalidate_still _
  | resizeServer serverId flavorId => exact request _ _ _
  | confirmResize serverId => exact request _ _ _
  | revertResize serverId => exact request _ _ _
  | attachVolume serverId volumeId =>
    refine frames_bind (lookupOr404_still _ _ _ _ _) (fun _ => frames_bind (lookupOr404_still _ _ _ _ _) (fun _ => ?_))
    refine frames_bind (ofExcept_frames _) (fun _ => frames_bind (call_still _ _ _ _) (fun _ => ?_))
    exact frames_bind (cacheInvalidate_still _) (fun _ => cacheInvalidate_still _)
  | detachVolume serverId volumeId =>
    refine frames_bind (lookupOr404_still _ _ _ _ _) (fun _ => frames_bind (call_still _ _ _ _) (fun _ => ?_))
    refine frames_bind (ofExcept_frames _) (fun found => ?_)
    split
    · exact frames_throw _
    · refine frames_bind (call_still _ _ _ _) (fun _ => ?_)
      exact frames_bind (cacheInvalidate_still _) (fun _ => cacheInvalidate_still _)
  | createVm request => exact discard (createVm_frames still_inert engine_calm trivial request)
  | startVm serverId => exact discard (lifecycleOperation_frames still_inert engine_calm _ _)
  | stopVm serverId => exact discard (lifecycleOperation_frames still_inert engine_calm _ _)
  | rebootVm serverId => exact discard (lifecycleOperation_frames still_inert engine_calm _ _)
  | deleteVm serverId => exact discard (deleteVm_frames still_inert engine_calm _)

theorem discard_still {α : Type} {m : M α} (frames : Frames (still key) m) : Frames (still key) (do let _ ← m) :=
  frames_bind frames (fun _ => frames_pure _)

theorem discard_clears {α : Type} {m : M α} (clears : Clears env key m) : Clears env key (do let _ ← m) :=
  clears_before clears (fun _ _ => frames_pure _)

theorem listOf_still {resource : Resource} (apart : key ≠ resource.key) : Frames (still key) (listOf env resource) := by
  cases resource with
  | networks => exact cachedList_still apart
  | volumes => exact cachedList_still apart
  | images => exact cachedList_still apart

theorem createServerImage_still (serverId name : String) : Frames (still key) (createServerImage env serverId name) :=
  frames_bind (lookupOr404_still _ _ _ _ _) (fun _ => frames_bind (call_still _ _ _ _) (fun _ => frames_pure _))

theorem act_server {op : OpenStack.Op} (acts : op ≠ .listServers) : act env (.server op) = mutate env op := by
  cases op <;> first | exact absurd rfl acts | rfl

/-- Of a list that it does not list, an operation puts nothing into the cache. -/
theorem act_still {op : Op} {resource : Resource} (other : op ≠ .list resource) :
    Frames (still resource.key) (act env op) := by
  cases op with
  | list listed =>
    refine discard_still (listOf_still ?_)
    intro same
    cases resource <;> cases listed <;> first | exact other rfl | exact absurd same (by decide)
  | server op =>
    by_cases lists : op = .listServers
    · subst lists
      refine discard_still (cachedList_still ?_)
      cases resource <;> decide
    · rw [act_server lists]
      exact mutate_still op
  | createNetwork payload => exact discard_still ((createNetwork_clears payload).still _)
  | deleteNetwork networkId => exact discard_still ((deleteNetwork_clears networkId).still _)
  | createVolume payload => exact discard_still ((createVolume_clears payload).still _)
  | deleteVolume volumeId => exact discard_still ((deleteVolume_clears volumeId).still _)
  | createImage payload => exact discard_still ((createImage_clears payload).still _)
  | deleteImage imageId => exact discard_still ((deleteImage_clears imageId).still _)
  | snapshot serverId name => exact discard_still (createServerImage_still serverId name)

/-- What changes a list leaves none in the cache. -/
theorem act_clears {op : Op} {resource : Resource} (changes : op.changes = some resource) :
    Clears env resource.key (act env op) := by
  cases op with
  | list | snapshot => contradiction
  | server op =>
    cases op with
    | attachVolume serverId volumeId =>
      cases changes
      exact attachVolume_clears serverId volumeId
    | detachVolume serverId volumeId =>
      cases changes
      exact detachVolume_clears serverId volumeId
    | listServers | createServer | performAction | deleteServer | resizeServer | confirmResize | revertResize | createVm
      | startVm | stopVm | rebootVm | deleteVm => contradiction
  | createNetwork payload =>
    cases changes
    exact discard_clears (createNetwork_clears payload)
  | deleteNetwork networkId =>
    cases changes
    exact discard_clears (deleteNetwork_clears networkId)
  | createVolume payload =>
    cases changes
    exact discard_clears (createVolume_clears payload)
  | deleteVolume volumeId =>
    cases changes
    exact discard_clears (deleteVolume_clears volumeId)
  | createImage payload =>
    cases changes
    exact discard_clears (createImage_clears payload)
  | deleteImage imageId =>
    cases changes
    exact discard_clears (deleteImage_clears imageId)

end Still

section Listing
variable {env : Env} {resource service operation : String} {serialize : Val → Except Exc Obj}

/- A list in the cache was there before, or is fetched now. -/
def ListedSince (resource : String) (s : World) (fetchedAt : Nat) : Prop :=
  (∃ entry, s.cache.peek resource = some entry ∧ entry.value.fetchedAt = fetchedAt) ∨ s.log.length ≤ fetchedAt

theorem cacheGet_listed (w : World) :
    wp (cacheGet env resource) w
      (fun found t => (∀ listing, found = some listing → ListedSince resource w listing.fetchedAt) ∧ t.log = w.log ∧
        (still resource).rel w t)
      (fun _ _ => False) := by
  have quiet : Frames (still resource) (cacheGet env resource) := cacheGet_still resource
  replace quiet := quiet w
  simp only [cacheGet, ask, wp_bind, wp_get, wp_set, wp_pure] at quiet ⊢
  refine ⟨?_, trivial, quiet⟩
  intro listing found
  obtain ⟨entry, held, value, _⟩ := Cache.cacheGet_found found
  exact .inl ⟨entry, held, by rw [value]⟩

theorem cacheSet_listed (listing : Listing) (w : World) :
    wp (cacheSet env resource listing) w
      (fun _ t => t.log = w.log ∧ (∀ ok, t.cache.reaches ok = w.cache.reaches ok) ∧
        ∀ entry, t.cache.peek resource = some entry →
          w.cache.peek resource = some entry ∨ entry.value.fetchedAt = listing.fetchedAt)
      (fun _ _ => False) := by
  simp only [cacheSet, ask, wp_bind, wp_get, wp_set, wp_pure, wp_modify]
  refine ⟨trivial, (Cache.cacheSet_touches _ _ _ _ _ _).reaches, fun entry held => ?_⟩
  obtain same | ⟨stored, lifetime, origin, _, written⟩ :=
    Cache.cacheSet_peek (env.redisUp w.tick) (env.wall w.tick) Listing.json resource listing w.cache
  · exact .inl (same.symm.trans held)
  · right
    cases Option.some.inj (written.symm.trans held)
    obtain rfl | rfl := origin <;> rfl

/- What a listing does to its own entry, whether it returns or raises. -/
def Relisted (resource : String) (w t : World) : Prop :=
  w.log.length ≤ t.log.length ∧ (∀ ok, t.cache.reaches ok = w.cache.reaches ok) ∧
    ∀ entry, t.cache.peek resource = some entry → ListedSince resource w entry.value.fetchedAt

theorem relisted_of_still {w t : World} (quiet : (still resource).rel w t) : Relisted resource w t :=
  ⟨quiet.2.2, quiet.2.1, fun entry held => .inl ⟨entry, peek_kept quiet.1 held, rfl⟩⟩

theorem cachedList_spec (w : World) :
    wp (cachedList env resource service operation serialize) w
      (fun listing t => ListedSince resource w listing.fetchedAt ∧ Relisted resource w t)
      (fun _ t => Relisted resource w t) := by
  rw [cachedList, wp_bind]
  refine wp_mono (cacheGet_listed w) ?_ (fun _ _ never => never.elim)
  rintro found t ⟨hit, log, quiet⟩
  cases found with
  | some cached => exact ⟨hit cached rfl, relisted_of_still quiet⟩
  | none =>
    simp only [wp_bind, wp_get]
    refine wp_mono (@call_still env resource _ _ _ _ t) ?_
      (fun exc u later => relisted_of_still ((still resource).trans quiet later))
    intro items u later
    have whole := relisted_of_still ((still resource).trans quiet later)
    cases comprehend serialize items with
    | error exc => exact whole
    | ok items =>
      rw [wp_ofExcept_ok]
      refine wp_mono (cacheSet_listed _ u) ?_ (fun _ _ never => never.elim)
      rintro _ v ⟨sameLog, reaches, stored⟩
      have since : ListedSince resource w t.log.length := .inr (by rw [log])
      refine ⟨since, by rw [sameLog]; exact whole.1, fun ok => (reaches ok).trans (whole.2.1 ok), fun entry there => ?_⟩
      obtain old | new := stored entry there
      · exact whole.2.2 entry old
      · rw [new]
        exact since

theorem listOf_spec (listed : Resource) (w : World) :
    wp (listOf env listed) w
      (fun listing t => ListedSince listed.key w listing.fetchedAt ∧ Relisted listed.key w t)
      (fun _ t => Relisted listed.key w t) := by
  cases listed with
  | networks => exact cachedList_spec w
  | volumes => exact cachedList_spec w
  | images => exact cachedList_spec w

end Listing

/- No list was fetched before the last operation that changed it had returned. -/
def Coherent (s : Session) : Prop := ∀ a ∈ s.answers, a.mutatedAt ≤ a.fetchedAt

/- What every step keeps: the answers so far are coherent, and so would be the next one of each list. -/
structure Sound (env : Env) (s : Session) : Prop where
  answered : Coherent s
  cached : ∀ resource : Resource, ∀ entry, s.world.cache.peek resource.key = some entry →
    s.changedAt resource ≤ entry.value.fetchedAt
  logged : ∀ resource, s.changedAt resource ≤ s.world.log.length
  reached : Reached env s.world

section Runs
variable {env : Env} {s t : Session} {op : Op}

theorem Sound.listed (sound : Sound env s) {resource : Resource} {fetchedAt : Nat}
    (since : ListedSince resource.key s.world fetchedAt) : s.changedAt resource ≤ fetchedAt := by
  obtain ⟨entry, held, same⟩ | later := since
  · rw [← same]
    exact sound.cached resource entry held
  · exact Nat.le_trans (sound.logged resource) later

theorem Sound.relisted (sound : Sound env s) {listed : Resource} {w : World}
    (own : Relisted listed.key s.world w) (others : ∀ r, r ≠ listed → (still r.key).rel s.world w) {answers : List Answer}
    (answered : ∀ a ∈ answers, a.mutatedAt ≤ a.fetchedAt) : Sound env ⟨w, s.changedAt, answers⟩ := by
  refine ⟨answered, ?_, fun r => Nat.le_trans (sound.logged r) own.1, fun n => (own.2.1 _).trans (sound.reached n)⟩
  intro r entry held
  by_cases same : r = listed
  · subst same
    exact sound.listed (own.2.2 entry held)
  · exact sound.cached r entry (peek_kept (others r same).1 held)

theorem key_injective {r listed : Resource} (apart : r ≠ listed) : r.key ≠ listed.key := by
  cases r <;> cases listed <;> first | exact absurd rfl apart | decide

theorem perform_list {listed : Resource} (sound : Sound env s) (h : perform env s (.list listed) = some t) :
    Sound env t := by
  have spec := @listOf_spec env listed s.world
  have quiet (r : Resource) (apart : r ≠ listed) : Frames (still r.key) (listOf env listed) :=
    listOf_still (key_injective apart)
  simp only [perform] at h
  split at h
  · rename_i listing w run
    cases h
    obtain ⟨since, own⟩ := wp_of_ok spec run
    refine sound.relisted own (fun r apart => (quiet r apart).of_ok run) ?_
    intro a member
    obtain old | new := List.mem_append.mp member
    · exact sound.answered a old
    · rw [List.mem_singleton.mp new]
      exact sound.listed since
  · rename_i exc w run
    cases h
    have own := (wp_iff_of_error run).mp spec
    exact sound.relisted own (fun r apart => (quiet r apart).of_error run) sound.answered

theorem perform_act (acts : ∀ resource, op ≠ .list resource) (h : perform env s op = some t) :
    (∃ w, act env op s.world = .ok () w ∧
      t = ⟨w, fun r => if op.changes = some r then w.log.length else s.changedAt r, s.answers⟩) ∨
    (∃ exc w, act env op s.world = .error exc w ∧ t = ⟨w, s.changedAt, s.answers⟩) := by
  unfold perform at h
  split at h
  · exact absurd rfl (acts _)
  · split at h
    · rename_i w run
      exact .inl ⟨w, run, (Option.some.inj h).symm⟩
    · rename_i exc w run
      exact .inr ⟨exc, w, run, (Option.some.inj h).symm⟩

theorem perform_sound (sound : Sound env s) (h : perform env s op = some t) : Sound env t := by
  by_cases lists : ∃ resource, op = .list resource
  · obtain ⟨resource, rfl⟩ := lists
    exact perform_list sound h
  · have acts : ∀ resource, op ≠ .list resource := fun resource same => lists ⟨resource, same⟩
    obtain ⟨w, run, rfl⟩ | ⟨exc, w, run, rfl⟩ := perform_act acts h
    · have quiet (r : Resource) := (@act_still env _ r (acts r)).of_ok run
      refine ⟨sound.answered, ?_, ?_, fun n => ((quiet .networks).2.1 _).trans (sound.reached n)⟩
      · intro r entry held
        by_cases changes : op.changes = some r
        · have gone := wp_of_ok ((act_clears changes).cleared s.world sound.reached) run
          exact absurd (gone.symm.trans held) (by simp)
        · simp only [if_neg changes]
          exact sound.cached r entry (peek_kept (quiet r).1 held)
      · intro r
        dsimp only
        split
        · exact Nat.le_refl _
        · exact Nat.le_trans (sound.logged r) (quiet r).2.2
    · have quiet (r : Resource) := (@act_still env _ r (acts r)).of_error run
      exact ⟨sound.answered, fun r entry held => sound.cached r entry (peek_kept (quiet r).1 held),
        fun r => Nat.le_trans (sound.logged r) (quiet r).2.2, fun n => ((quiet .networks).2.1 _).trans (sound.reached n)⟩

end Runs

/- A volume, a server and an image, all of them under one id, and a cloud that grants every request. -/
def oneThing : Val := .dict [("id", .str "id-1"), ("status", .str "available")]

def obligingCloud : Env where
  ready := true
  listLimit := 1000
  connect _ := none
  sdk _ request := { result := .ok ⟨if request.operation ∈ ["volumes", "images"] then .list [oneThing] else oneThing, none⟩ }
  wall _ := 0
  lag _ := 0
  redisUp _ := true
  databaseUp _ := true
  uuid _ := "uuid"

end VMachine.OpenStack.Listings
