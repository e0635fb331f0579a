import VMachine.Lib.Traces
import VMachine.OpenStack.Compute

/-! The requests that a service makes of the SDK. They are settled before the first of them is
answered: an answer decides only whether the next one is made at all. -/
namespace VMachine.OpenStack
open Py Effects Traces

section Requests
variable {env : Env}

theorem ask_emits : Emits World.log [] ask := fun w => (List.append_nil w.log).symm

theorem ofExcept_emits {α : Type} (x : Except Exc α) : Emits World.log [] (ofExcept x) := by
  cases x with
  | ok a => exact emits_pure a
  | error exc => exact emits_throw [] exc

theorem create_emits : Emits World.log [] (create env) := by
  intro w
  refine wp_mono create_spec ?_ ?_
  · rintro _ t ⟨_, rfl⟩
    exact (List.append_nil w.log).symm
  · rintro _ t ⟨_, same, _⟩
    exact ⟨[], List.nil_prefix, by rw [same, List.append_nil]⟩

theorem issue_emits (request : SdkCall) : Emits World.log [request] (issue env request) :=
  emits_after ask_emits (fun _ => emits_before (emits_modify (fun _ => rfl)) (fun _ => emits_pure _))

theorem elapse_emits (ticks : Nat) : Emits World.log [] (elapse ticks) := fun w => (List.append_nil w.log).symm

theorem call_emits (service operation : String) (args : List Val) (kwargs : List (String × Val)) :
    Emits World.log [⟨service, operation, args, kwargs⟩] (call env service operation args kwargs) := by
  refine emits_after create_emits (fun _ => emits_before (issue_emits _) (fun outcome => ?_))
  refine emits_after (elapse_emits _) (fun _ => ?_)
  split
  · exact emits_pure _
  · exact emits_throw [] _

/- The operations that have been requested. -/
def World.operations (w : World) : List String := w.log.map SdkCall.operation

theorem operations_emits {α : Type} {m : M α} {requests : List SdkCall} (emits : Emits World.log requests m) :
    Emits World.operations (requests.map SdkCall.operation) m :=
  emits_map SdkCall.operation emits

theorem cacheInvalidate_emits (resource : String) : Emits World.log [] (cacheInvalidate env resource) :=
  fun w => (List.append_nil w.log).symm

theorem lookupOr404_emits (service operation id message code : String) :
    Emits World.log [⟨service, operation, [.str id], []⟩] (lookupOr404 env service operation id message code) :=
  emits_before (call_emits _ _ _ _) (fun _ => emits_ite _ (emits_pure _) (emits_throw [] _))

def keypairRequests (keyName : Option String) : List SdkCall :=
  match nonempty keyName with
  | some name => [⟨"compute", "get_keypair", [.str name], []⟩]
  | none => []

theorem checkKeypair_emits (keyName : Option String) :
    Emits World.log (keypairRequests keyName) (checkKeypair env keyName) := by
  unfold checkKeypair keypairRequests
  cases nonempty keyName with
  | some name => exact emits_before (lookupOr404_emits _ _ _ _ _) (fun _ => emits_pure _)
  | none => exact emits_pure _

/- The request for a server, and all that `create_server` asks for before it. -/
def serverRequestOf (payload : ServerCreateRequest) : SdkCall :=
  ⟨"compute", "create_server", [],
    [("name", .str payload.name), ("image_id", .str payload.imageId), ("flavor_id", .str payload.flavorId),
      ("networks", .list [.dict [("uuid", .str payload.networkId)]]), ("metadata", .dict payload.metadata)] ++
      given "key_name" payload.keyName ++ given "availability_zone" payload.availabilityZone⟩

def creationRequests (payload : ServerCreateRequest) : List SdkCall :=
  ⟨"image", "get_image", [.str payload.imageId], []⟩ :: ⟨"compute", "get_flavor", [.str payload.flavorId], []⟩ ::
    ⟨"network", "get_network", [.str payload.networkId], []⟩ ::
    (keypairRequests payload.keyName ++ [serverRequestOf payload])

/-- Without `wait`, `create_server` ends with the request for the server. -/
theorem createServer_emits {payload : ServerCreateRequest} (nowait : payload.wait = false) :
    Emits World.log (creationRequests payload) (createServer env payload) := by
  unfold createServer
  refine emits_cons (lookupOr404_emits _ _ _ _ _) (fun _ => ?_)
  refine emits_cons (lookupOr404_emits _ _ _ _ _) (fun _ => ?_)
  refine emits_cons (lookupOr404_emits _ _ _ _ _) (fun _ => ?_)
  refine emits_bind (checkKeypair_emits _) (fun _ => ?_)
  refine emits_before (call_emits _ _ _ _) (fun server => ?_)
  refine emits_after ?_ (fun server => emits_after (cacheInvalidate_emits _) (fun _ => ofExcept_emits _))
  rw [nowait]
  exact emits_pure _

end Requests

section Tasks
variable {env : Env}

/- The table of operation tasks is as it was. -/
def sameTasks : Frame World where
  rel s t := t.tasks = s.tasks
  refl _ := rfl
  trans first second := second.trans first

theorem sameTasks_silent (env : Env) : Silent env (fun _ => True) sameTasks where
  asked _ := rfl
  passed _ _ := rfl
  connected _ := rfl
  issued _ _ _ _ := rfl
  gauged _ _ := rfl

theorem call_sameTasks (service operation : String) (args : List Val) (kwargs : List (String × Val)) :
    Frames sameTasks (call env service operation args kwargs) :=
  call_frames (sameTasks_silent env) service args kwargs trivial

theorem lookupOr404_sameTasks (service operation id message code : String) :
    Frames sameTasks (lookupOr404 env service operation id message code) :=
  frames_bind (call_sameTasks _ _ _ _) (fun _ => frames_ite _ (frames_pure _) (frames_throw _))

end Tasks

end VMachine.OpenStack
