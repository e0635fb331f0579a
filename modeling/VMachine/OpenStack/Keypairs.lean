import VMachine.OpenStack.Listings
import VMachine.OpenStack.Requests

/-! The key pairs and the volumes, with the tracked endpoints that change them. Of these four, the
creation of a key pair reads an attribute that its request does not declare, before the request
to Nova is made. -/
namespace VMachine.OpenStack.Keypairs
open Py Effects Traces

def keypairSummarySchema : Schema where
  name := "KeypairSummary"
  fields := [optionalStr "name", optionalStr "public_key", optionalStr "fingerprint"]

def keypairCreateRequestSchema : Schema where
  name := "KeypairCreateRequest"
  fields := [resourceName, optionalStr "public_key"]

section Service
variable (env : Env)

/- The summary is given a type as well, which its model ignores. -/
def keypairSummary (kp : Val) : Except Exc Obj := do
  let name ← readAttr kp "name"
  validate keypairSummarySchema
    [("name", name), ("fingerprint", attrOr kp "fingerprint" (.str "")), ("type", attrOr kp "type" (.str "ssh"))]

def listKeypairs : M (List Obj) := do
  let keypairs ← call env "compute" "keypairs" [] []
  ofExcept (comprehend keypairSummary keypairs)

def findKeypair (name : Val) : M Reply := call env "compute" "find_keypair" [name] ignoreMissing

def getKeypair (keypairName : String) : M Obj := do
  let kp ← findKeypair env (.str keypairName)
  if kp.value.truthy then ofExcept (keypairSummary kp.value)
  else throw (.appException "Keypair not found" 404 "keypair_not_found")

def createKeypair (payload : Any) : M Any := do
  let name ← payload.getattr "name"
  let existing ← findKeypair env name
  if existing.value.truthy then
    throw (.appException ("Keypair '" ++ name.text ++ "' already exists") 409 "keypair_already_exists")
  else
    let type ← payload.getattr "type"
    let publicKey ← payload.getattr "public_key"
    let kp ← call env "compute" "create_keypair" []
      ([("name", name), ("type", type.or (.str "ssh"))] ++ ifTruthy "public_key" publicKey)
    return .model (← ofExcept (keypairSummary kp.value))

def deleteKeypair (keypairName : Any) : M Any := do
  deleteOr404 env "compute" "delete_keypair" "Keypair not found" "keypair_not_found" keypairName
  return .val .none

end Service

namespace Endpoints
variable (env : Env)

/- The task is named after the key pair, whatever the service returns. -/
def createKeypair (payload : Obj) : M Response := do
  let name ← (Any.model payload).getattr "name"
  tracked env "create_keypair" "keypair" name .none (fun task => do
    let response ← Keypairs.createKeypair env (.model payload)
    updateTask env task .succeeded name none
    match response with
    | .model o => return .model (o.copyWith "operation_task_id" (.str (toString task)))
    | .val v => fault (.attributeError v.type "model_copy"))

def deleteKeypair (keypairName : String) : M Response :=
  OpenStack.Endpoints.trackedAction env "delete_keypair" "keypair" keypairName
    (Keypairs.deleteKeypair env (.val (.str keypairName)))

def createVolume (payload : Obj) : M Response := do
  let name ← (Any.model payload).getattr "name"
  OpenStack.Endpoints.trackedCreate env "create_volume" "volume" name .none "id"
    (Listings.createVolume env (.model payload))

def deleteVolume (volumeId : String) : M Response :=
  OpenStack.Endpoints.trackedAction env "delete_volume" "volume" volumeId
    (Listings.deleteVolume env (.val (.str volumeId)))

end Endpoints

inductive Request where
  | createKeypair (payload : Obj)
  | deleteKeypair (keypairName : String)
  | createVolume (payload : Obj)
  | deleteVolume (volumeId : String)

def Request.Valid : Request → Prop
  | .createKeypair payload => payload.Valid keypairCreateRequestSchema
  | .createVolume payload => payload.Valid Listings.volumeCreateRequestSchema
  | _ => True

def handle (env : Env) : Request → M Response
  | .createKeypair payload => Endpoints.createKeypair env payload
  | .deleteKeypair keypairName => Endpoints.deleteKeypair env keypairName
  | .createVolume payload => Endpoints.createVolume env payload
  | .deleteVolume volumeId => Endpoints.deleteVolume env volumeId

/- The request for a volume. -/
def volumeRequest (payload : Obj) : SdkCall :=
  ⟨"block_storage", "create_volume", [], [("name", payload.field "name"), ("size", payload.field "size")] ++
    ifTruthy "description" (payload.field "description") ++ ifTruthy "image" (payload.field "image_id")⟩

/- A deletion is not denied, and a new volume is answered with what fits its summary. -/
def Request.Granted (env : Env) (w : World) : Request → Prop
  | .createKeypair _ => False
  | .deleteKeypair name =>
    ¬ Denies (answer env { w with tick := w.tick + 2 } ⟨"compute", "delete_keypair", [.str name], ignoreMissing⟩)
  | .createVolume payload => ∃ reply o, (answer env { w with tick := w.tick + 2 } (volumeRequest payload)).result = .ok reply ∧
      validate Listings.volumeSummarySchema (Listings.volumeData reply.value) = .ok o
  | .deleteVolume id =>
    ¬ Denies (answer env { w with tick := w.tick + 2 } ⟨"block_storage", "delete_volume", [.str id], ignoreMissing⟩)

section Truth
variable {env : Env} {w : World} {payload : Obj}

/-- The service reads an attribute that its request does not have. -/
theorem createKeypair_raises (valid : payload.Valid keypairCreateRequestSchema) :
    Raises (Keypairs.createKeypair env (.model payload)) := by
  have undeclared : payload.getattr "type" = none := getattr_undeclared valid (by decide)
  refine raises_then (fun _ => raises_then (fun _ => ?_))
  split
  · exact raises_throw _
  · exact raises_bind (getattr_raises undeclared) _

theorem createKeypair_never_returns (valid : payload.Valid keypairCreateRequestSchema) :
    Raises (Endpoints.createKeypair env payload) :=
  raises_then (fun _ => tracked_raises (fun _ => raises_bind (createKeypair_raises valid) _))

theorem createVolume_eq (valid : payload.Valid Listings.volumeCreateRequestSchema) :
    Listings.createVolume env (.model payload) = (do
      let volume ← call env "block_storage" "create_volume" [] (volumeRequest payload).kwargs
      cacheInvalidate env "volumes"
      build Listings.volumeSummarySchema (Listings.volumeData volume.value)) := by
  have name : payload.getattr "name" = some (payload.field "name") := getattr_field valid (by decide)
  have size : payload.getattr "size" = some (payload.field "size") := getattr_field valid (by decide)
  have description : payload.getattr "description" = some (payload.field "description") := getattr_field valid (by decide)
  have imageId : payload.getattr "image_id" = some (payload.field "image_id") := getattr_field valid (by decide)
  simp only [Listings.createVolume, Any.getattr, name, size, description, imageId, pure_bind, volumeRequest]

theorem createVolume_answers (succeeds : AllSucceed env) (valid : payload.Valid Listings.volumeCreateRequestSchema) :
    wp (Listings.createVolume env (.model payload)) w
      (fun response t => ∃ reply o, (answer env w (volumeRequest payload)).result = .ok reply ∧
        validate Listings.volumeSummarySchema (Listings.volumeData reply.value) = .ok o ∧ response = .model o ∧
        t.tasks = w.tasks ∧ t.faults = w.faults)
      (fun _ _ => ∀ reply, (answer env w (volumeRequest payload)).result = .ok reply →
        ∀ o, validate Listings.volumeSummarySchema (Listings.volumeData reply.value) ≠ .ok o) := by
  rw [createVolume_eq valid, wp_bind]
  refine wp_mono (call_succeeds succeeds _ _ _ _) ?_ (fun _ _ never => never.elim)
  rintro reply t ⟨result, kept⟩
  simp only [cacheInvalidate, ask, wp_bind, wp_get, wp_set, wp_pure, wp_modify, build]
  cases fits : validate Listings.volumeSummarySchema (Listings.volumeData reply.value) with
  | ok o => exact ⟨reply, o, result, fits, rfl, kept⟩
  | error exc =>
    intro other same o
    cases result.symm.trans same
    simp [fits]

theorem createVolume_truthful_iff (succeeds : AllSucceed env) (valid : payload.Valid Listings.volumeCreateRequestSchema) :
    Truthful (Endpoints.createVolume env payload) w ↔ (Request.createVolume payload).Granted env w := by
  have name : payload.getattr "name" = some (payload.field "name") := getattr_field valid (by decide)
  refine Iff.trans (b := ¬ ¬ (Request.createVolume payload).Granted env w) (truthful_iff ?_) not_not
  rw [Endpoints.createVolume, Any.getattr, name]
  change wp (OpenStack.Endpoints.trackedCreate env "create_volume" "volume" (payload.field "name") .none "id"
    (Listings.createVolume env (.model payload))) w _ _
  rw [OpenStack.Endpoints.trackedCreate, tracked_wp succeeds.writes, wp_bind]
  refine wp_mono (createVolume_answers succeeds valid) ?_ ?_
  · rintro response t ⟨reply, o, result, fits, rfl, tasks, faults⟩
    have fitting : o.Valid Listings.volumeSummarySchema := valid_of_validate fits
    have id : o.getattr "id" = some (o.field "id") := getattr_field fitting (by decide)
    have running : t.tasks[w.tasks.length]? =
        some ⟨"create_volume", "volume", payload.field "name", .running, none, none⟩ := by
      rw [tasks]
      exact List.getElem?_concat_length
    have bound := (List.getElem?_eq_some_iff.mp running).1
    rw [wp_bind, Any.getattr, id, wp_pure, wp_bind, updateTask_wp (succeeds.writes _) running]
    exact ⟨not_not.mpr ⟨reply, o, result, fits⟩, faults, _, List.getElem?_set_self bound, rfl⟩
  · intro exc t unfit
    refine wp_mono (wp_true _ t) (fun _ _ _ => ?_) (fun _ _ _ => ?_)
    · rintro ⟨reply, o, result, fits⟩
      exact unfit reply result o fits
    · rintro ⟨reply, o, result, fits⟩
      exact unfit reply result o fits

theorem deleteVolume_deletes (succeeds : AllSucceed env) (id : Any) :
    DeletesUnless w (Listings.deleteVolume env id)
      (Denies (answer env w ⟨"block_storage", "delete_volume", [id.toVal], ignoreMissing⟩)) := by
  rw [DeletesUnless, Listings.deleteVolume, wp_bind]
  exact deleteOr404_spec succeeds _ _ _ _ id

/-- Every valid request for a key pair or a volume, with every call and every write succeeding, is
tracked truthfully exactly when it is a delete that is not denied, or the creation of a volume
whose answer fits the summary; no key pair is ever created. -/
theorem keypair_and_volume_tasks_iff {request : Request} (valid : request.Valid) (succeeds : AllSucceed env) :
    Truthful (handle env request) w ↔ request.Granted env w := by
  cases request with
  | createKeypair payload =>
    refine iff_of_false ?_ not_false
    rintro ⟨response, t, run, _⟩
    exact (createKeypair_never_returns valid).not_ok run
  | deleteKeypair name =>
    exact trackedAction_truthful_iff succeeds (deleteOr404_deletes succeeds _ _ _ _ (.val (.str name)))
  | createVolume payload => exact createVolume_truthful_iff succeeds valid
  | deleteVolume id => exact trackedAction_truthful_iff succeeds (deleteVolume_deletes succeeds (.val (.str id)))

end Truth

section Requests
variable {env : Env} {w : World} {payload : Obj}

theorem getattr_sameTasks (x : Any) (name : String) : Frames sameTasks (x.getattr name) := by
  unfold Any.getattr fault
  split
  · exact frames_bind (fun _ => rfl) (fun _ => frames_throw _)
  · split
    · exact frames_pure _
    · exact frames_bind (fun _ => rfl) (fun _ => frames_throw _)

theorem createKeypair_sameTasks : Frames sameTasks (Keypairs.createKeypair env (.model payload)) := by
  refine frames_bind (getattr_sameTasks _ _) (fun name => frames_bind (call_sameTasks _ _ _ _) (fun existing => ?_))
  refine frames_ite _ (frames_throw _) (frames_bind (getattr_sameTasks _ _) (fun type => ?_))
  refine frames_bind (getattr_sameTasks _ _) (fun publicKey => frames_bind (call_sameTasks _ _ _ _) (fun kp => ?_))
  exact frames_bind (ofExcept_frames _) (fun _ => frames_pure _)

theorem fault_emits {α : Type} (exc : Exc) : Emits World.log [] (fault exc : M α) :=
  emits_after (emits_modify (fun w => (List.append_nil w.log).symm)) (fun _ => emits_throw [] _)

/-- The one request is the look-up of the name. -/
theorem createKeypair_emits (valid : payload.Valid keypairCreateRequestSchema) :
    Emits World.log [⟨"compute", "find_keypair", [payload.field "name"], ignoreMissing⟩]
      (Keypairs.createKeypair env (.model payload)) := by
  have name : payload.getattr "name" = some (payload.field "name") := getattr_field valid (by decide)
  have undeclared : payload.getattr "type" = none := getattr_undeclared valid (by decide)
  unfold Keypairs.createKeypair
  simp only [Any.getattr, name, undeclared, pure_bind]
  refine emits_before (call_emits _ _ _ _) (fun existing => emits_ite _ (emits_throw [] _) ?_)
  exact emits_stop (fault_emits _) (fault_raises _)

/-- Whatever OpenStack answers, the creation of a key pair raises, its task is left as failed, and
nothing but the look-up of its name has been requested. -/
theorem keypair_never_requested (valid : payload.Valid keypairCreateRequestSchema) (up : ∀ n, env.databaseUp n = true) :
    ∃ exc t asked, handle env (.createKeypair payload) w = .error exc t ∧
      (t.tasks[w.tasks.length]?).map OperationTask.state = some .failed ∧ t.operations = w.operations ++ asked ∧
      asked <+: ["find_keypair"] := by
  have name : payload.getattr "name" = some (payload.field "name") := getattr_field valid (by decide)
  have spec : wp (handle env (.createKeypair payload)) w (fun _ _ => False) (fun _ t =>
      (t.tasks[w.tasks.length]?).map OperationTask.state = some .failed ∧
        ∃ asked, t.operations = w.operations ++ asked ∧ asked <+: ["find_keypair"]) := by
    change wp (Endpoints.createKeypair env payload) w _ _
    rw [Endpoints.createKeypair, wp_bind, Any.getattr, name, wp_pure, tracked_wp up, wp_bind]
    refine wp_mono (wp_and (wp_and (createKeypair_raises valid _) (createKeypair_sameTasks _))
      (operations_emits (createKeypair_emits valid) _)) (fun _ _ never => never.1.1.elim) ?_
    rintro exc t ⟨⟨_, tasks⟩, asked, part, after⟩
    have row : t.tasks[w.tasks.length]? = some ⟨"create_keypair", "keypair", payload.field "name", .running, none, none⟩ := by
      rw [show t.tasks = _ from tasks]
      exact List.getElem?_concat_length
    have bound := (List.getElem?_eq_some_iff.mp row).1
    rw [updateTask_wp (up _) row]
    exact ⟨by simp [bound, OperationTask.update], asked, after, part⟩
  cases run : handle env (.createKeypair payload) w with
  | ok response t => exact (wp_of_ok spec run).elim
  | error exc t =>
    obtain ⟨failed, asked, after, part⟩ := wp_of_error spec run
    exact ⟨exc, t, asked, rfl, failed, after, part⟩

end Requests

/- A public key to be registered. -/
def oneKey : Obj := ⟨"KeypairCreateRequest", [("name", .str "ops"), ("public_key", .str "ssh-ed25519 AAAA")]⟩

theorem oneKey_valid : oneKey.Valid keypairCreateRequestSchema := ⟨oneKey.attrs, rfl⟩

theorem key_not_registered : ∃ exc t asked, handle Listings.obligingCloud (.createKeypair oneKey) .initial = .error exc t ∧
    (t.tasks[(0 : Nat)]?).map OperationTask.state = some .failed ∧ t.operations = [] ++ asked ∧
    asked <+: ["find_keypair"] :=
  keypair_never_requested (w := .initial) oneKey_valid (fun _ => rfl)

theorem obligingCloud_succeeds : AllSucceed Listings.obligingCloud where
  ready := rfl
  connects _ := rfl
  answers _ _ := ⟨_, rfl⟩
  writes _ := rfl

theorem volume_delete_truthful : Truthful (handle Listings.obligingCloud (.deleteVolume "vol-1")) .initial := by
  refine (@keypair_and_volume_tasks_iff _ _ (.deleteVolume "vol-1") trivial obligingCloud_succeeds).mpr ?_
  rintro ⟨reply, result, denied⟩
  cases result
  contradiction

end VMachine.OpenStack.Keypairs
