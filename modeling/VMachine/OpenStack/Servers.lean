import VMachine.OpenStack.Requests
import VMachine.OpenStack.Tasks

/-! The tracked endpoints of the servers. The last request that a service makes decides what its task
says, with two exceptions: a new server has to fit its summary, and the answer to a snapshot has to be
the id of an image, which is looked at only when the task has already been set to succeeded. -/
namespace VMachine.OpenStack.Servers
open Py Effects

/- A model or a dictionary that names its task, or no content with the task in X-Operation-Task-ID. -/
inductive Response where
  | model (o : Obj)
  | plain (attrs : List (String × Val))
  | empty (statusCode taskId : Nat)
  deriving Repr

inductive PowerAction where
  | start
  | stop
  | reboot
  deriving Repr, DecidableEq

def PowerAction.text : PowerAction → String
  | .start => "start"
  | .stop => "stop"
  | .reboot => "reboot"

inductive ResizeAction where
  | confirm
  | revert
  deriving Repr, DecidableEq

def ResizeAction.text : ResizeAction → String
  | .confirm => "confirm"
  | .revert => "revert"

structure ServerImageCreateRequest where
  name : String
  nameLength : 1 ≤ name.length ∧ name.length ≤ 255

def serverImageCreateResponseSchema : Schema where
  name := "ServerImageCreateResponse"
  fields := [{ name := "server_id", type := .str }, { name := "image_name", type := .str }, optionalStr "image_id",
    optionalStr "operation_task_id"]

def serverActionResponse (response : ServerActionResponse) : Obj where
  cls := "ServerActionResponse"
  attrs := [("server_id", .str response.serverId), ("action", .str response.action), ("accepted", .bool response.accepted),
    ("operation_task_id", .none)]

namespace Endpoints
variable (env : Env)

/- The handlers differ in what they track, whom the task names in the end, and what they respond. -/
def trackedServer {α : Type} (operationType : String) (targetId failedTarget : Val) (service : M α) (target : α → Val)
    (respond : Nat → α → Except Exc Response) : M Response :=
  tracked env operationType "server" targetId failedTarget (fun task => do
    let response ← service
    updateTask env task .succeeded (target response) none
    ofExcept (respond task response))

def createServer (payload : ServerCreateRequest) : M Response :=
  trackedServer env "create_server" (.str payload.name) .none (OpenStack.createServer env payload)
    (fun server => server.field "id")
    (fun task server => .ok (.model (server.copyWith "operation_task_id" (.str (toString task)))))

def serverAction (serverId : String) (action : PowerAction) : M Response :=
  trackedServer env (action.text ++ "_server") (.str serverId) (.str serverId) (performAction env serverId action.text)
    (fun _ => .str serverId)
    (fun task response =>
      .ok (.model ((serverActionResponse response).copyWith "operation_task_id" (.str (toString task)))))

def deleteServer (serverId : String) : M Response :=
  trackedServer env "delete_server" (.str serverId) (.str serverId) (OpenStack.deleteServer env serverId)
    (fun _ => .str serverId) (fun task _ => .ok (.empty 204 task))

def attachVolume (serverId volumeId : String) : M Response :=
  trackedServer env "attach_volume" (.str serverId) (.str serverId) (OpenStack.attachVolume env serverId volumeId)
    (fun _ => .str serverId) (fun task _ => .ok (.empty 204 task))

def detachVolume (serverId volumeId : String) : M Response :=
  trackedServer env "detach_volume" (.str serverId) (.str serverId) (OpenStack.detachVolume env serverId volumeId)
    (fun _ => .str serverId) (fun task _ => .ok (.empty 204 task))

def resizeServer (serverId flavorId : String) : M Response :=
  trackedServer env "resize_server" (.str serverId) (.str serverId) (OpenStack.resizeServer env serverId flavorId)
    (fun _ => .str serverId) (fun task _ => .ok (.empty 202 task))

def resizeServerAction (serverId : String) (action : ResizeAction) : M Response :=
  trackedServer env (action.text ++ "_resize") (.str serverId) (.str serverId)
    (match action with
      | .confirm => confirmResize env serverId
      | .revert => revertResize env serverId)
    (fun _ => .str serverId)
    (fun task _ => .ok (.plain [("status", .str action.text), ("operation_task_id", .str (toString task))]))

def createServerSnapshot (serverId : String) (payload : ServerImageCreateRequest) : M Response :=
  trackedServer env "create_server_image" (.str serverId) (.str serverId) (createServerImage env serverId payload.name)
    (fun _ => .str serverId)
    (fun task imageId => do
      let response ← validate serverImageCreateResponseSchema
        [("server_id", .str serverId), ("image_name", .str payload.name), ("image_id", imageId),
          ("operation_task_id", .str (toString task))]
      return .model response)

end Endpoints

inductive Request where
  | createServer (payload : ServerCreateRequest)
  | serverAction (serverId : String) (action : PowerAction)
  | deleteServer (serverId : String)
  | attachVolume (serverId volumeId : String)
  | detachVolume (serverId volumeId : String)
  | resizeServer (serverId flavorId : String)
  | resizeServerAction (serverId : String) (action : ResizeAction)
  | createServerSnapshot (serverId : String) (payload : ServerImageCreateRequest)

def handle (env : Env) : Request → M Response
  | .createServer payload => Endpoints.createServer env payload
  | .serverAction serverId action => Endpoints.serverAction env serverId action
  | .deleteServer serverId => Endpoints.deleteServer env serverId
  | .attachVolume serverId volumeId => Endpoints.attachVolume env serverId volumeId
  | .detachVolume serverId volumeId => Endpoints.detachVolume env serverId volumeId
  | .resizeServer serverId flavorId => Endpoints.resizeServer env serverId flavorId
  | .resizeServerAction serverId action => Endpoints.resizeServerAction env serverId action
  | .createServerSnapshot serverId payload => Endpoints.createServerSnapshot env serverId payload

/- The operation whose answer decides. -/
def Request.decisive : Request → String
  | .createServer payload => if payload.wait then "wait_for_server" else "create_server"
  | .serverAction _ .start => "start_server"
  | .serverAction _ .stop => "stop_server"
  | .serverAction _ .reboot => "reboot_server"
  | .deleteServer _ => "delete_server"
  | .attachVolume _ _ => "create_volume_attachment"
  | .detachVolume _ _ => "delete_volume_attachment"
  | .resizeServer _ _ => "resize_server"
  | .resizeServerAction _ .confirm => "confirm_server_resize"
  | .resizeServerAction _ .revert => "revert_server_resize"
  | .createServerSnapshot _ _ => "create_server_image"

/- The answers that the handler can take: a server that fits its summary, anything but a denial for a deletion,
an id or nothing for a snapshot, and anything at all for the others. -/
def Request.Takes : Request → Reply → Prop
  | .createServer _, reply => ∃ o, serializeServerSummary reply.value = .ok o
  | .deleteServer _, reply => reply.value ≠ .bool false
  | .createServerSnapshot _ _, reply => reply.value = .none ∨ ∃ id, reply.value = .str id
  | _, _ => True

def asks (operation : String) (x : Exchange) : Bool := x.request.operation == operation

/- What has become of the first request for an operation. -/
def answerTo (operation : String) (xs : List Exchange) : Option (Except Exc Reply) :=
  (xs.find? (asks operation)).map (fun x => x.outcome.result)

/- The deciding request has been accepted, with an answer that the handler can take. -/
def Request.Fulfilled (request : Request) (xs : List Exchange) : Prop :=
  ∃ reply, answerTo request.decisive xs = some (.ok reply) ∧ request.Takes reply

/- Neither requests nor tasks change. -/
def still : Frame World where
  rel s t := t.traffic = s.traffic ∧ t.tasks = s.tasks
  refl _ := ⟨rfl, rfl⟩
  trans first second := ⟨second.1.trans first.1, second.2.trans first.2⟩

/- No request is one for the operation, and the tasks stay. -/
def without (operation : String) : Frame World where
  rel s t := (∃ xs, t.traffic = s.traffic ++ xs ∧ ∀ x ∈ xs, asks operation x = false) ∧ t.tasks = s.tasks
  refl _ := ⟨⟨[], by simp, by simp⟩, rfl⟩
  trans := by
    rintro s t u ⟨⟨xs, first, others⟩, same⟩ ⟨⟨ys, second, also⟩, kept⟩
    refine ⟨⟨xs ++ ys, by rw [second, first, List.append_assoc], fun x member => ?_⟩, kept.trans same⟩
    exact (List.mem_append.mp member).elim (others x) (also x)

section Requests
variable {env : Env} {operation : String} {w : World} {α β : Type}

theorem still_silent : Silent env (fun _ => False) still where
  asked _ := ⟨rfl, rfl⟩
  passed _ _ := ⟨rfl, rfl⟩
  connected _ := ⟨rfl, rfl⟩
  issued _ _ _ never := never.elim
  gauged _ _ := ⟨rfl, rfl⟩

theorem without_silent : Silent env (· ≠ operation) (without operation) where
  asked _ := (without operation).refl _
  passed _ _ := (without operation).refl _
  connected _ := (without operation).refl _
  issued w n request other := by
    refine ⟨⟨[⟨request, env.sdk n request⟩], rfl, fun x member => ?_⟩, rfl⟩
    rw [List.mem_singleton.mp member]
    exact beq_false_of_ne other
  gauged _ _ := (without operation).refl _

theorem call_without (service : String) {other : String} (args : List Val) (kwargs : List (String × Val))
    (apart : other ≠ operation) : Frames (without operation) (call env service other args kwargs) :=
  call_frames without_silent service args kwargs apart

theorem lookupOr404_without (service : String) {other : String} (id message code : String) (apart : other ≠ operation) :
    Frames (without operation) (lookupOr404 env service other id message code) :=
  frames_bind (call_without _ _ _ apart) (fun _ => frames_ite _ (frames_pure _) (frames_throw _))

/-- What becomes of a call: it is refused before it leaves, or it is sent once and answered. -/
theorem call_exchanged (service : String) (args : List Val) (kwargs : List (String × Val)) :
    wp (call env service operation args kwargs) w
      (fun reply t => ∃ x, asks operation x = true ∧ t.traffic = w.traffic ++ [x] ∧ x.outcome.result = .ok reply ∧
        t.tasks = w.tasks)
      (fun _ t => ((∃ x exc, asks operation x = true ∧ t.traffic = w.traffic ++ [x] ∧ x.outcome.result = .error exc) ∨
        t.traffic = w.traffic) ∧ t.tasks = w.tasks) := by
  rw [call, wp_bind]
  refine wp_mono (create_frames still_silent w) ?_ (fun _ t same => ⟨.inr same.1, same.2⟩)
  rintro _ t ⟨traffic, tasks⟩
  simp only [issue, elapse, ask, wp_bind, wp_get, wp_set, wp_pure, wp_modify]
  cases result : (env.sdk t.tick ⟨service, operation, args, kwargs⟩).result with
  | ok reply => exact ⟨_, beq_self_eq_true _, by rw [traffic], result, tasks⟩
  | error exc => exact ⟨.inl ⟨_, exc, beq_self_eq_true _, by rw [traffic], result⟩, tasks⟩

/- At most one request has been for the operation, and this has become of it. -/
def Asked (operation : String) (w t : World) (answer : Option (Except Exc Reply)) : Prop :=
  ∃ xs, t.traffic = w.traffic ++ xs ∧ (xs.filter (asks operation)).length ≤ 1 ∧ answerTo operation xs = answer ∧
    t.tasks = w.tasks

/- A service that returns what it makes of the answer to its request for the operation, and raises if there
is no such answer or nothing to be made of it. -/
def Settles (operation : String) (made : Reply → Option α) (service : M α) : Prop :=
  ∀ w, wp service w
    (fun a t => ∃ reply, Asked operation w t (some (.ok reply)) ∧ made reply = some a)
    (fun _ t => ∃ answer, Asked operation w t answer ∧ ∀ reply, answer = some (.ok reply) → made reply = none)

variable {made : Reply → Option α}

theorem asked_after {v t : World} {answer : Option (Except Exc Reply)} (before : (without operation).rel w v)
    (asked : Asked operation v t answer) : Asked operation w t answer := by
  obtain ⟨⟨xs, first, others⟩, same⟩ := before
  obtain ⟨ys, second, once, answered, kept⟩ := asked
  have none : xs.filter (asks operation) = [] := List.filter_eq_nil_iff.mpr (fun x member => by simp [others x member])
  have never : xs.find? (asks operation) = Option.none :=
    List.find?_eq_none.mpr (fun x member => by simp [others x member])
  refine ⟨xs ++ ys, by rw [second, first, List.append_assoc], ?_, ?_, kept.trans same⟩
  · rw [List.filter_append, none, List.nil_append]
    exact once
  · rw [answerTo, List.find?_append, never]
    exact answered

theorem asked_nothing {t : World} (before : (without operation).rel w t) : Asked operation w t none :=
  asked_after before ⟨[], by simp, by simp, rfl, rfl⟩

theorem settles_throw (exc : Exc) : Settles operation made (throw exc : M α) :=
  fun w => ⟨none, asked_nothing ((without operation).refl w), by simp⟩

/-- What asks for other operations may come first. -/
theorem settles_bind {m : M β} {f : β → M α} (first : Frames (without operation) m)
    (rest : ∀ b, Settles operation made (f b)) : Settles operation made (m >>= f) := by
  intro w
  rw [wp_bind]
  refine wp_mono (first w) (fun b v before => ?_) (fun _ t before => ⟨none, asked_nothing before, by simp⟩)
  refine wp_mono (rest b v) ?_ ?_
  · rintro a t ⟨reply, asked, makes⟩
    exact ⟨reply, asked_after before asked, makes⟩
  · rintro _ t ⟨answer, asked, fails⟩
    exact ⟨answer, asked_after before asked, fails⟩

/-- The request itself, and what is made of its answer without any more requests. -/
theorem settles_call (service : String) (args : List Val) (kwargs : List (String × Val)) {post : Reply → M α}
    (after : ∀ reply v, wp (post reply) v (fun a t => made reply = some a ∧ still.rel v t)
      (fun _ t => made reply = none ∧ still.rel v t)) :
    Settles operation made (call env service operation args kwargs >>= post) := by
  intro w
  rw [wp_bind]
  refine wp_mono (call_exchanged service args kwargs) ?_ ?_
  · rintro reply v ⟨x, own, traffic, result, tasks⟩
    have asked {t : World} (same : still.rel v t) : Asked operation w t (some (.ok reply)) := by
      refine ⟨[x], by rw [same.1, traffic], by simp [own], ?_, same.2.trans tasks⟩
      simp only [answerTo, List.find?_cons, own, Option.map_some, result]
    refine wp_mono (after reply v) ?_ ?_
    · rintro a t ⟨makes, same⟩
      exact ⟨reply, asked same, makes⟩
    · rintro _ t ⟨fails, same⟩
      refine ⟨_, asked same, fun other again => ?_⟩
      cases again
      exact fails
  · rintro _ t ⟨⟨x, exc, own, traffic, result⟩ | traffic, tasks⟩
    · refine ⟨some (.error exc), ⟨[x], traffic, by simp [own], ?_, tasks⟩, by simp⟩
      simp only [answerTo, List.find?_cons, own, Option.map_some, result]
    · exact ⟨none, ⟨[], by simp [traffic], by simp, rfl, tasks⟩, by simp⟩

end Requests

section Services
variable {env : Env}

theorem findServer_without {operation : String} (serverId : String) (apart : "get_server" ≠ operation) :
    Frames (without operation) (findServer env serverId) :=
  lookupOr404_without _ _ _ _ apart

theorem performAction_settles (serverId : String) (action : PowerAction) :
    Settles (Request.serverAction serverId action).decisive (fun _ => some ⟨serverId, action.text, true⟩)
      (performAction env serverId action.text) := by
  unfold performAction
  cases action <;>
    exact settles_bind (findServer_without _ (by simp [Request.decisive]))
      (fun server => settles_call _ _ _ (fun _ _ => ⟨rfl, rfl, rfl⟩))

theorem serverRequest_settles (serverId : String) {operation : String} (args : List Val) (apart : "get_server" ≠ operation) :
    Settles operation (fun _ => some ()) (serverRequest env serverId operation args) :=
  settles_bind (findServer_without _ apart) (fun _ => settles_call _ _ _ (fun _ _ => ⟨rfl, rfl, rfl⟩))

/- A deletion that the SDK denies comes to nothing. -/
def undenied (reply : Reply) : Option Unit :=
  match reply.value with
  | .bool false => none
  | _ => some ()

theorem deleteServer_settles (serverId : String) :
    Settles "delete_server" undenied (OpenStack.deleteServer env serverId) := by
  refine settles_call _ _ _ (fun reply v => ?_)
  split
  · rename_i denied
    exact ⟨by simp only [undenied, denied], rfl, rfl⟩
  · rename_i other
    refine ⟨?_, rfl, rfl⟩
    unfold undenied
    split
    · contradiction
    · rfl

theorem attachVolume_settles (serverId volumeId : String) :
    Settles "create_volume_attachment" (fun _ => some ()) (OpenStack.attachVolume env serverId volumeId) := by
  refine settles_bind (findServer_without _ (by decide)) (fun server => ?_)
  refine settles_bind (lookupOr404_without _ _ _ _ (by decide)) (fun volume => ?_)
  refine settles_bind (ofExcept_frames _) (fun id => settles_call _ _ _ (fun _ _ => ⟨rfl, rfl, rfl⟩))

theorem detachVolume_settles (serverId volumeId : String) :
    Settles "delete_volume_attachment" (fun _ => some ()) (OpenStack.detachVolume env serverId volumeId) := by
  refine settles_bind (findServer_without _ (by decide)) (fun server => ?_)
  refine settles_bind (call_without _ _ _ (by decide)) (fun attachments => ?_)
  refine settles_bind (ofExcept_frames _) (fun found => ?_)
  cases found with
  | none => exact settles_throw _
  | some attachment => exact settles_call _ _ _ (fun _ _ => ⟨rfl, rfl, rfl⟩)

theorem createServerImage_settles (serverId name : String) :
    Settles "create_server_image" (fun reply => some reply.value) (createServerImage env serverId name) :=
  settles_bind (findServer_without _ (by decide)) (fun _ => settles_call _ _ _ (fun _ _ => ⟨rfl, rfl, rfl⟩))

def summaryOf (reply : Reply) : Option Obj := (serializeServerSummary reply.value).toOption

theorem summary_made (reply : Reply) (v : World) :
    wp (do
      cacheInvalidate env "servers"
      ofExcept (serializeServerSummary reply.value)) v
      (fun o t => summaryOf reply = some o ∧ still.rel v t) (fun _ t => summaryOf reply = none ∧ still.rel v t) := by
  unfold summaryOf
  cases serializeServerSummary reply.value with
  | ok o => exact ⟨rfl, rfl, rfl⟩
  | error exc => exact ⟨rfl, rfl, rfl⟩

theorem createServer_settles (payload : ServerCreateRequest) :
    Settles (Request.createServer payload).decisive summaryOf (OpenStack.createServer env payload) := by
  obtain ⟨operation, decisive⟩ : ∃ operation, (Request.createServer payload).decisive = operation := ⟨_, rfl⟩
  have apart {other : String} (never : other ≠ "wait_for_server" ∧ other ≠ "create_server") : other ≠ operation := by
    rw [← decisive, Request.decisive]
    split
    · exact never.1
    · exact never.2
  rw [decisive]
  unfold OpenStack.createServer
  refine settles_bind (lookupOr404_without _ _ _ _ (apart (by decide))) (fun _ => ?_)
  refine settles_bind (lookupOr404_without _ _ _ _ (apart (by decide))) (fun _ => ?_)
  refine settles_bind (lookupOr404_without _ _ _ _ (apart (by decide))) (fun _ => ?_)
  refine settles_bind ?_ (fun _ => ?_)
  · unfold checkKeypair
    split
    · exact frames_bind (lookupOr404_without _ _ _ _ (apart (by decide))) (fun _ => frames_pure _)
    · exact frames_pure _
  · rw [Request.decisive] at decisive
    unfold awaitServer
    split at decisive
    · rename_i waits
      subst decisive
      refine settles_bind (call_without _ _ _ (by decide)) (fun server => ?_)
      rw [if_pos waits]
      exact settles_call _ _ _ summary_made
    · rename_i leaves
      subst decisive
      refine settles_call _ _ _ (fun reply v => ?_)
      rw [if_neg leaves, pure_bind]
      exact summary_made reply v

end Services

section Truth
variable {env : Env} {w : World} {α : Type}

/- The task of the handler is in this state in the end, which is succeeded exactly if the request has been
fulfilled. What decides that has been asked no more than once. -/
def Told (request : Request) (state : TaskState) (w t : World) : Prop :=
  ∃ xs, t.traffic = w.traffic ++ xs ∧ (xs.filter (asks request.decisive)).length ≤ 1 ∧
    (request.Fulfilled xs ↔ state = .succeeded) ∧ (t.tasks[w.tasks.length]?).map OperationTask.state = some state

/-- A task says whether the service has returned and its answer could be shown. -/
theorem trackedServer_tells (up : ∀ n, env.databaseUp n = true) (request : Request) {operationType : String}
    {targetId failedTarget : Val} {service : M α} {target : α → Val} {respond : Nat → α → Except Exc Response}
    {made : Reply → Option α} (settles : Settles request.decisive made service)
    (takes : ∀ reply task, request.Takes reply ↔ ∃ a response, made reply = some a ∧ respond task a = .ok response) :
    wp (Endpoints.trackedServer env operationType targetId failedTarget service target respond) w
      (fun _ t => Told request .succeeded w t) (fun _ t => Told request .failed w t) := by
  rw [Endpoints.trackedServer, tracked_wp up, wp_bind]
  refine wp_mono (settles (w.begun operationType "server" targetId)) ?_ ?_
  · rintro a t ⟨reply, ⟨xs, traffic, once, answered, tasks⟩, makes⟩
    have there := task_begun tasks
    rw [wp_bind, updateTask_wp (up _) there]
    cases fit : respond w.tasks.length a with
    | ok response =>
      have fulfilled : request.Fulfilled xs := ⟨reply, answered, (takes reply _).mpr ⟨a, response, makes, fit⟩⟩
      exact ⟨xs, traffic, once, iff_of_true fulfilled rfl, update_tells there _ _ _ _⟩
    | error exc =>
      have again (row : OperationTask) : (t.tasks.set w.tasks.length row)[w.tasks.length]? = some row :=
        List.getElem?_set_self (List.getElem?_eq_some_iff.mp there).1
      rw [wp_ofExcept_error, updateTask_wp (up _) (again _)]
      refine ⟨xs, traffic, once, iff_of_false ?_ (by simp), update_tells (again _) _ _ _ _⟩
      rintro ⟨other, same, taken⟩
      cases answered.symm.trans same
      obtain ⟨b, response, also, fits⟩ := (takes reply w.tasks.length).mp taken
      cases makes.symm.trans also
      cases fit.symm.trans fits
  · rintro exc t ⟨answer, ⟨xs, traffic, once, answered, tasks⟩, fails⟩
    have there := task_begun tasks
    rw [updateTask_wp (up _) there]
    refine ⟨xs, traffic, once, iff_of_false ?_ (by simp), update_tells there _ _ _ _⟩
    rintro ⟨reply, same, taken⟩
    obtain ⟨a, _, makes, _⟩ := (takes reply w.tasks.length).mp taken
    have nothing := fails reply (answered.symm.trans same)
    cases nothing.symm.trans makes

theorem takes_anything {request : Request} {a : α} {respond : Nat → α → Response} (any : ∀ reply, request.Takes reply)
    (reply : Reply) (task : Nat) : request.Takes reply ↔
      ∃ b response, (fun _ : Reply => some a) reply = some b ∧ (.ok (respond task b) : Except Exc Response) = .ok response :=
  ⟨fun _ => ⟨a, _, rfl, rfl⟩, fun _ => any reply⟩

/-- An id, or nothing, and no other answer fits the response to a snapshot. -/
theorem snapshot_fits (serverId name : String) (imageId : Val) (task : Nat) :
    (∃ o, validate serverImageCreateResponseSchema
      [("server_id", .str serverId), ("image_name", .str name), ("image_id", imageId),
        ("operation_task_id", .str (toString task))] = .ok o) ↔ imageId = .none ∨ ∃ id, imageId = .str id := by
  cases imageId with
  | none => exact ⟨fun _ => .inl rfl, fun _ => ⟨_, rfl⟩⟩
  | str id => exact ⟨fun _ => .inr ⟨id, rfl⟩, fun _ => ⟨_, rfl⟩⟩
  | bool b | int i | list vs | dict kvs =>
    constructor
    · rintro ⟨o, fits⟩
      contradiction
    · rintro (never | ⟨id, never⟩) <;> contradiction

end Truth

/-- With a database that answers, the task of every handler of the servers ends as succeeded exactly if what decides
the request has been accepted with an answer that the handler can take; then the handler returns, and otherwise it
raises with its task failed. -/
theorem server_tasks_tell {env : Env} {w : World} (up : ∀ n, env.databaseUp n = true) (request : Request) :
    wp (handle env request) w (fun _ t => Told request .succeeded w t) (fun _ t => Told request .failed w t) := by
  cases request with
  | createServer payload =>
    refine trackedServer_tells up _ (createServer_settles payload) (fun reply task => ?_)
    simp only [Request.Takes, summaryOf]
    cases serializeServerSummary reply.value with
    | ok o => exact ⟨fun _ => ⟨o, _, rfl, rfl⟩, fun _ => ⟨o, rfl⟩⟩
    | error exc => exact ⟨fun ⟨_, never⟩ => by contradiction, fun ⟨_, _, never, _⟩ => by contradiction⟩
  | serverAction serverId action =>
    exact trackedServer_tells up _ (performAction_settles serverId action) (takes_anything (fun _ => trivial))
  | deleteServer serverId =>
    refine trackedServer_tells up _ (deleteServer_settles serverId) (fun reply task => ?_)
    simp only [Request.Takes, undenied]
    split
    · rename_i denied
      exact ⟨fun accepted => absurd denied accepted, fun ⟨_, _, never, _⟩ => by contradiction⟩
    · rename_i other
      exact ⟨fun _ => ⟨(), _, rfl, rfl⟩, fun _ => other⟩
  | attachVolume serverId volumeId =>
    exact trackedServer_tells up _ (attachVolume_settles serverId volumeId) (takes_anything (fun _ => trivial))
  | detachVolume serverId volumeId =>
    exact trackedServer_tells up _ (detachVolume_settles serverId volumeId) (takes_anything (fun _ => trivial))
  | resizeServer serverId flavorId =>
    exact trackedServer_tells up (.resizeServer serverId flavorId) (serverRequest_settles serverId _ (by simp [Request.decisive]))
      (takes_anything (fun _ => trivial))
  | resizeServerAction serverId action =>
    cases action <;>
      exact trackedServer_tells up (.resizeServerAction serverId _) (serverRequest_settles serverId _ (by simp [Request.decisive]))
        (takes_anything (fun _ => trivial))
  | createServerSnapshot serverId payload =>
    refine trackedServer_tells up _ (createServerImage_settles serverId payload.name) (fun reply task => ?_)
    refine (snapshot_fits serverId payload.name reply.value task).symm.trans ⟨?_, ?_⟩
    · rintro ⟨o, fits⟩
      exact ⟨reply.value, .model o, rfl, by rw [fits]; rfl⟩
    · rintro ⟨a, response, same, fits⟩
      cases same
      obtain ⟨o, built, _⟩ := ok_of_bind fits
      exact ⟨o, built⟩

/- A cloud that grants every request, with an object where an id is wanted. -/
def objectCloud : Env where
  ready := true
  listLimit := 1000
  connect _ := none
  sdk _ _ := { result := .ok ⟨.dict [("id", .str "id-1")], none⟩ }
  wall _ := 0
  lag _ := 0
  redisUp _ := true
  databaseUp _ := true
  uuid _ := "uuid"

def nightly : ServerImageCreateRequest := ⟨"nightly", by decide⟩

/-- The snapshot is taken, and its task says that it has failed, since the answer is the image and not its id. -/
theorem snapshot_taken_and_failed : ∃ exc t, handle objectCloud (.createServerSnapshot "srv-1" nightly) .initial = .error exc t ∧
    answerTo "create_server_image" t.traffic = some (.ok ⟨.dict [("id", .str "id-1")], none⟩) ∧
      Told (.createServerSnapshot "srv-1" nightly) .failed .initial t := by
  have up (n : Nat) : objectCloud.databaseUp n = true := rfl
  have raises : ∃ exc t, handle objectCloud (.createServerSnapshot "srv-1" nightly) .initial = .error exc t ∧
      answerTo "create_server_image" t.traffic = some (.ok ⟨.dict [("id", .str "id-1")], none⟩) := ⟨_, _, rfl, rfl⟩
  obtain ⟨exc, t, run, answered⟩ := raises
  have told := @server_tasks_tell objectCloud .initial up (.createServerSnapshot "srv-1" nightly)
  exact ⟨exc, t, run, answered, (wp_iff_of_error run).mp told⟩

end VMachine.OpenStack.Servers
