import VMachine.Kubernetes.Service
import VMachine.Lib.Standing

/-! Where the objects are that the service creates, and which of them it can reach. A creation goes
to the namespace of its payload, while everything else goes to the configured one, so that an
object in another namespace is there for good. An object stands from when its creation has been
accepted until its deletion has. -/
namespace VMachine.Kubernetes
open Py Effects OpenStack Standing

structure Address where
  kind : Kind
  ns : String
  name : String
  deriving Repr, DecidableEq

def text (attrs : List (String × Val)) (key : String) : String := ((attrs.lookup key).getD .none).text

/- The name in the metadata of a body. -/
def nameIn (body : Val) : String := (attrOr (attrOr body "metadata" .none) "name" .none).text

def kindOf (verb : String) (call : SdkCall) : Option Kind :=
  kinds.find? (fun kind => call.operation == kind.operation verb)

/- What a call does if it is accepted. -/
def effect (call : SdkCall) : Option (Change Address) :=
  match kindOf "create" call, kindOf "delete" call with
  | some kind, _ => some (.adds ⟨kind, text call.kwargs "namespace", nameIn ((call.kwargs.lookup "body").getD .none)⟩)
  | none, some kind => some (.removes ⟨kind, text call.kwargs "namespace", text call.kwargs "name"⟩)
  | none, none => none

def accepted (x : Exchange) : Option (Change Address) :=
  match x.outcome.result with
  | .ok _ => effect x.request
  | .error _ => none

def changes (traffic : List Exchange) : List (Change Address) := traffic.filterMap accepted

def objects (w : World) : List Address := standing (changes w.traffic)

/- What the process is called for. The endpoints leave the namespace to the service. -/
inductive Op where
  | list (kind : Kind)
  | get (kind : Kind) (name : String)
  | create (kind : Kind) (payload : Obj)
  | delete (kind : Kind) (name : String)
  | scale (name : String) (payload : Obj)
  | clusterInfo
  | deployWorkload (name image : String) (replicas : Int) (port : Val)
  | removeWorkload (name : String)

section Operations
variable (env : Kube)

def Endpoints.create : Kind → Obj → M Response
  | .pod => Endpoints.createPod env
  | .deployment => Endpoints.createDeployment env
  | .service => Endpoints.createService env

def Endpoints.delete : Kind → String → M Response
  | .pod => Endpoints.deletePod env
  | .deployment => Endpoints.deleteDeployment env
  | .service => Endpoints.deleteService env

def act : Op → M Unit
  | .list .pod => do let _ ← listPods env .none
  | .list .deployment => do let _ ← listDeployments env .none
  | .list .service => do let _ ← listServices env .none
  | .get .pod name => do let _ ← getPod env (.str name) .none
  | .get .deployment name => do let _ ← getDeployment env (.str name) .none
  | .get .service name => do let _ ← getService env (.str name) .none
  | .create kind payload => do let _ ← Endpoints.create env kind payload
  | .delete kind name => do let _ ← Endpoints.delete env kind name
  | .scale name payload => do let _ ← Endpoints.scaleDeployment env name payload
  | .clusterInfo => do let _ ← getClusterInfo env
  | .deployWorkload name image replicas port => do let _ ← deployWorkload env name image replicas port
  | .removeWorkload name => removeWorkload env name

/- However it ends. -/
def after {α : Type} (m : M α) (w : World) : World :=
  match m w with
  | .ok _ t => t
  | .error _ t => t

def run (w : World) (ops : List Op) : World := ops.foldl (fun w op => after (act env op) w) w

def bodyOf : Kind → Obj → Val
  | .pod => podBody env
  | .deployment => deploymentBody env
  | .service => serviceBody env

/- The call for an object that a payload describes. -/
def creation (kind : Kind) (payload : Obj) : SdkCall :=
  createCall kind (resolve env (payload.field "namespace")) (bodyOf env kind payload)

def deletion (kind : Kind) (name : String) : SdkCall := deleteCall kind (.str name) (.str env.kubernetesNamespace)

def deploymentKwargs (name image : String) (replicas : Int) (port : Val) : List (String × Val) :=
  [("name", .str name), ("image", .str image), ("replicas", .int replicas), ("port", port)]

def serviceKwargs (name : String) (port : Val) : List (String × Val) :=
  [("name", .str name), ("port", port.or (.int 80)), ("selector", .dict [("app", .str name)])]

/- The call for what the manager builds, if it can be built. -/
def managed (kind : Kind) (schema : Schema) (kwargs : List (String × Val)) : List SdkCall :=
  match validate schema kwargs with
  | .ok payload => [creation env kind payload]
  | .error _ => []

/- The calls that an operation can make. -/
def Op.calls : Op → List SdkCall
  | .list kind => [listCall kind (.str env.kubernetesNamespace)]
  | .get kind name => [readCall kind (.str name) (.str env.kubernetesNamespace)]
  | .create kind payload => [creation env kind payload]
  | .delete kind name => [deletion env kind name]
  | .scale name payload =>
    [patchScaleCall (.str name) (.str env.kubernetesNamespace)
        (.dict [("spec", .dict [("replicas", payload.field "replicas")])]),
      readCall .deployment (.str name) (.str env.kubernetesNamespace)]
  | .clusterInfo =>
    [⟨"CoreV1Api", "list_node", [], []⟩, ⟨"CoreV1Api", "list_namespace", [], []⟩, ⟨"VersionApi", "get_code", [], []⟩]
  | .deployWorkload name image replicas port =>
    managed env .deployment deploymentCreateRequestSchema (deploymentKwargs name image replicas port) ++
      managed env .service serviceCreateRequestSchema (serviceKwargs name port)
  | .removeWorkload name => [deletion env .service name, deletion env .deployment name]

end Operations

/- The requests that are made are among the calls. -/
def sending (calls : List SdkCall) : Frame World where
  rel s t := ∃ new, t.traffic = s.traffic ++ new ∧ ∀ x ∈ new, x.request ∈ calls
  refl s := ⟨[], (List.append_nil s.traffic).symm, by simp⟩
  trans := by
    rintro s t u ⟨first, before, mine⟩ ⟨second, later, yours⟩
    refine ⟨first ++ second, by rw [later, before, List.append_assoc], ?_⟩
    intro x member
    rcases List.mem_append.mp member with member | member
    · exact mine x member
    · exact yours x member

section Sending
variable {env : Kube} {calls : List SdkCall}

theorem sending_of_same {s t : World} (same : t.traffic = s.traffic) : (sending calls).rel s t :=
  ⟨[], by rw [same, List.append_nil], by simp⟩

theorem ask_sending : Frames (sending calls) ask := fun _ => sending_of_same rfl

theorem getApi_sending (api : String) : Frames (sending calls) (getApi env api) := by
  refine frames_ite _ (frames_bind ask_sending (fun n => ?_)) (frames_throw _)
  split
  · exact frames_pure _
  · exact frames_ite _ (frames_throw _) (frames_throw _)

theorem compose_sending (body : Val) : Frames (sending calls) (compose env body) := by
  refine frames_bind ask_sending (fun n => ?_)
  split
  · exact frames_pure _
  · exact frames_throw _

theorem request_sending {call : SdkCall} (member : call ∈ calls) : Frames (sending calls) (request env call) := by
  refine frames_bind (frames_bind ask_sending (fun n => frames_bind (frames_modify ?_) (fun _ => frames_pure _)))
    (fun outcome => frames_bind (fun _ => sending_of_same rfl) (fun _ => ofExcept_frames _))
  intro w
  exact ⟨[⟨call, env.sdk n call⟩], rfl, by simpa using member⟩

theorem guarded_sending {α : Type} (what : String) {body : M α} (frames : Frames (sending calls) body) :
    Frames (sending calls) (guarded what body) :=
  frames_tryCatch frames (fun _ => frames_ite _ (frames_throw _) (frames_throw _))

theorem listOf_sending (kind : Kind) (serialize : Val → Except Exc Obj) (ns : Val)
    (member : listCall kind (resolve env ns) ∈ calls) : Frames (sending calls) (listOf env kind serialize ns) := by
  refine guarded_sending _ (frames_bind (getApi_sending _) (fun _ => frames_bind (request_sending member) (fun resp => ?_)))
  exact frames_bind (ofExcept_frames _) (fun _ => frames_bind (ofExcept_frames _) (fun _ => ofExcept_frames _))

theorem getOf_sending (kind : Kind) (serialize : Val → Except Exc Obj) (name ns : Val)
    (member : readCall kind name (resolve env ns) ∈ calls) : Frames (sending calls) (getOf env kind serialize name ns) :=
  guarded_sending _ (frames_bind (getApi_sending _) (fun _ =>
    frames_bind (request_sending member) (fun _ => ofExcept_frames _)))

theorem createOf_sending (kind : Kind) (serialize : Val → Except Exc Obj) (payload : Obj) (body : Val)
    (member : createCall kind (resolve env (payload.field "namespace")) body ∈ calls) :
    Frames (sending calls) (createOf env kind serialize payload body) := by
  refine guarded_sending _ (frames_bind (compose_sending _) (fun _ => frames_bind (getApi_sending _) (fun _ => ?_)))
  exact frames_bind (request_sending member) (fun _ => frames_bind (ofExcept_frames _) (fun _ => frames_pure _))

theorem deleteOf_sending (kind : Kind) (name ns : Val) (member : deleteCall kind name (resolve env ns) ∈ calls) :
    Frames (sending calls) (deleteOf env kind name ns) :=
  guarded_sending _ (frames_bind (getApi_sending _) (fun _ =>
    frames_bind (request_sending member) (fun _ => frames_pure _)))

theorem scaleDeployment_sending (name : Val) (payload : Obj) (ns : Val)
    (patched : patchScaleCall name (resolve env ns) (.dict [("spec", .dict [("replicas", payload.field "replicas")])]) ∈ calls)
    (reread : readCall .deployment name (resolve env ns) ∈ calls) :
    Frames (sending calls) (scaleDeployment env name payload ns) := by
  refine guarded_sending _ (frames_bind (compose_sending _) (fun _ => frames_bind (getApi_sending _) (fun _ => ?_)))
  refine frames_bind (request_sending patched) (fun _ => frames_bind (request_sending reread) (fun _ => ?_))
  exact frames_bind (ofExcept_frames _) (fun _ => frames_pure _)

theorem getClusterInfo_sending : Frames (sending (Op.clusterInfo.calls env)) (getClusterInfo env) := by
  refine guarded_sending _ (frames_bind (getApi_sending _) (fun _ => frames_bind (request_sending (by simp [Op.calls]))
    (fun _ => frames_bind (request_sending (by simp [Op.calls])) (fun _ => frames_bind (request_sending (by simp [Op.calls]))
    (fun _ => ?_)))))
  refine frames_bind (ofExcept_frames _) (fun _ => frames_bind (ofExcept_frames _) (fun _ => ?_))
  refine frames_bind (ofExcept_frames _) (fun _ => frames_bind (ofExcept_frames _) (fun _ => ?_))
  exact frames_bind (ofExcept_frames _) (fun _ => frames_bind (ofExcept_frames _) (fun _ => ofExcept_frames _))

theorem createTask_sending (operationType targetType : String) (targetId : Val) :
    Frames (sending calls) (createTask env.toEnv operationType targetType targetId) := by
  intro w
  simp only [createTask, ask, wp_bind, wp_get, wp_set, wp_pure, wp_ite, wp_throw]
  split <;> exact sending_of_same rfl

theorem updateTask_sending (task : Nat) (state : TaskState) (targetId : Val) (errorMessage : Option String) :
    Frames (sending calls) (updateTask env.toEnv task state targetId errorMessage) := by
  intro w
  simp only [updateTask, ask, wp_bind, wp_get, wp_set, wp_pure, wp_ite, wp_throw]
  split
  · split <;> exact sending_of_same rfl
  · exact sending_of_same rfl

theorem tracked_sending {α : Type} (operationType targetType : String) (targetId failedTarget : Val) {work : Nat → M α}
    (frames : ∀ task, Frames (sending calls) (work task)) :
    Frames (sending calls) (tracked env.toEnv operationType targetType targetId failedTarget work) := by
  refine frames_bind (createTask_sending _ _ _) (fun task => frames_bind (updateTask_sending _ _ _ _) (fun _ => ?_))
  exact frames_tryCatch (frames task) (fun exc => frames_bind (updateTask_sending _ _ _ _) (fun _ => frames_throw _))

theorem getattr_sending (x : Any) (name : String) : Frames (sending calls) (x.getattr name) := by
  have faults {α : Type} (exc : Exc) : Frames (sending calls) (fault exc : M α) :=
    frames_bind (fun _ => sending_of_same rfl) (fun _ => frames_throw _)
  unfold Any.getattr
  split
  · exact faults _
  · split
    · exact frames_pure _
    · exact faults _

theorem trackedCreate_sending (operationType targetType : String) (targetId failedTarget : Val) (attr : String)
    {service : M Any} (frames : Frames (sending calls) service) :
    Frames (sending calls)
      (OpenStack.Endpoints.trackedCreate env.toEnv operationType targetType targetId failedTarget attr service) := by
  refine tracked_sending _ _ _ _ (fun task => frames_bind frames (fun response => ?_))
  refine frames_bind (getattr_sending _ _) (fun id => frames_bind (updateTask_sending _ _ _ _) (fun _ => ?_))
  split
  · exact frames_pure _
  · exact frames_bind (fun _ => sending_of_same rfl) (fun _ => frames_throw _)

theorem trackedAction_sending (operationType targetType targetId : String) {service : M Any}
    (frames : Frames (sending calls) service) :
    Frames (sending calls) (OpenStack.Endpoints.trackedAction env.toEnv operationType targetType targetId service) := by
  refine frames_bind (tracked_sending _ _ _ _ (fun task => ?_)) (fun _ => frames_pure _)
  exact frames_bind frames (fun _ => frames_bind (updateTask_sending _ _ _ _) (fun _ => frames_pure _))

theorem Frames.discarded {F : Frame World} {α : Type} {m : M α} (frames : Frames F m) : Frames F (do let _ ← m) :=
  frames_bind frames (fun _ => frames_pure _)

theorem managed_ok {kind : Kind} {schema : Schema} {kwargs : List (String × Val)} {payload : Obj}
    (built : validate schema kwargs = .ok payload) : managed env kind schema kwargs = [creation env kind payload] := by
  simp only [managed, built]

theorem deployWorkload_sending (name image : String) (replicas : Int) (port : Val) :
    Frames (sending ((Op.deployWorkload name image replicas port).calls env))
      (deployWorkload env name image replicas port) := by
  refine ofExcept_bind_frames (fun deployment built => frames_bind (createOf_sending _ _ _ _ ?_) (fun dep => ?_))
  · rw [Op.calls, deploymentKwargs, managed_ok built]
    exact List.mem_append_left _ (List.mem_singleton_self _)
  · refine ofExcept_bind_frames (fun service built => frames_bind (createOf_sending _ _ _ _ ?_) (fun svc => frames_pure _))
    rw [Op.calls, serviceKwargs, managed_ok built]
    exact List.mem_append_right _ (List.mem_singleton_self _)

/-- An operation makes no request but its calls. -/
theorem act_sending (op : Op) : Frames (sending (op.calls env)) (act env op) := by
  have own (call : SdkCall) : call ∈ [call] := List.mem_singleton_self call
  cases op with
  | list kind => cases kind <;> exact Frames.discarded (listOf_sending _ _ _ (own _))
  | get kind name => cases kind <;> exact Frames.discarded (getOf_sending _ _ _ _ (own _))
  | create kind payload =>
    cases kind <;> exact Frames.discarded (trackedCreate_sending _ _ _ _ _ (createOf_sending _ _ _ _ (own _)))
  | delete kind name =>
    cases kind <;> exact Frames.discarded (trackedAction_sending _ _ _ (deleteOf_sending _ _ _ (own _)))
  | scale name payload =>
    refine Frames.discarded (trackedCreate_sending _ _ _ _ _ (scaleDeployment_sending _ _ _ ?_ ?_))
    · exact List.mem_cons_self
    · exact List.mem_cons_of_mem _ (own _)
  | clusterInfo => exact Frames.discarded getClusterInfo_sending
  | deployWorkload name image replicas port => exact Frames.discarded (deployWorkload_sending _ _ _ _)
  | removeWorkload name =>
    refine frames_bind (deleteOf_sending _ _ _ ?_) (fun _ => frames_bind (deleteOf_sending _ _ _ ?_) (fun _ => frames_pure _))
    · exact List.mem_cons_self
    · exact List.mem_cons_of_mem _ (own _)

theorem Frames.after {F : Frame World} {α : Type} {m : M α} (frames : Frames F m) (w : World) : F.rel w (after m w) := by
  unfold Kubernetes.after
  cases ended : m w with
  | ok a t => exact frames.of_ok ended
  | error exc t => exact frames.of_error ended

end Sending

section Reach
variable {env : Kube} {w : World}

def clusterWide : List String := ["list_node", "list_namespace", "get_code"]

/- A call outside the configured namespace creates something, or is about the whole cluster. -/
def Within (env : Kube) (call : SdkCall) : Prop :=
  (∃ kind : Kind, call.operation = kind.operation "create") ∨ call.operation ∈ clusterWide ∨
    text call.kwargs "namespace" = env.kubernetesNamespace

theorem managed_within {kind : Kind} {schema : Schema} {kwargs : List (String × Val)} {call : SdkCall}
    (member : call ∈ managed env kind schema kwargs) : Within env call := by
  unfold managed at member
  split at member
  · rw [List.mem_singleton.mp member]
    exact .inl ⟨kind, rfl⟩
  · contradiction

theorem calls_within {op : Op} {call : SdkCall} (member : call ∈ op.calls env) : Within env call := by
  cases op with
  | list kind =>
    rw [List.mem_singleton.mp member]
    exact .inr (.inr rfl)
  | get kind name =>
    rw [List.mem_singleton.mp member]
    exact .inr (.inr rfl)
  | create kind payload =>
    rw [List.mem_singleton.mp member]
    exact .inl ⟨kind, rfl⟩
  | delete kind name =>
    rw [List.mem_singleton.mp member]
    exact .inr (.inr rfl)
  | scale name payload =>
    simp only [Op.calls, List.mem_cons, List.not_mem_nil, or_false] at member
    rcases member with rfl | rfl <;> exact .inr (.inr rfl)
  | clusterInfo =>
    simp only [Op.calls, List.mem_cons, List.not_mem_nil, or_false] at member
    rcases member with rfl | rfl | rfl <;> exact .inr (.inl (by decide))
  | deployWorkload name image replicas port =>
    rcases List.mem_append.mp member with member | member <;> exact managed_within member
  | removeWorkload name =>
    simp only [Op.calls, List.mem_cons, List.not_mem_nil, or_false] at member
    rcases member with rfl | rfl <;> exact .inr (.inr rfl)

theorem effect_creation (kind : Kind) (ns body : Val) :
    effect (createCall kind ns body) = some (.adds ⟨kind, ns.text, nameIn body⟩) := by
  cases kind <;> rfl

theorem effect_deletion (kind : Kind) (name ns : Val) :
    effect (deleteCall kind name ns) = some (.removes ⟨kind, ns.text, name.text⟩) := by
  cases kind <;> rfl

/-- A creation of some kind is one, and what is about the whole cluster is no deletion. -/
theorem kindOf_creation {kind : Kind} {call : SdkCall} (creates : call.operation = kind.operation "create") :
    kindOf "create" call ≠ none := by
  unfold kindOf
  rw [creates]
  cases kind <;> decide +kernel

theorem kindOf_clusterWide {call : SdkCall} (wide : call.operation ∈ clusterWide) : kindOf "delete" call = none := by
  have none : ∀ operation ∈ clusterWide, kinds.find? (fun kind => operation == kind.operation "delete") = none := by
    decide +kernel
  exact none call.operation wide

/-- What is removed, is removed from the configured namespace. -/
theorem effect_removes {call : SdkCall} {a : Address} (within : Within env call)
    (removes : effect call = some (.removes a)) : a.ns = env.kubernetesNamespace := by
  unfold effect at removes
  split at removes
  · simp at removes
  · rename_i kind uncreated deletes
    cases removes
    rcases within with ⟨other, creates⟩ | wide | inside
    · exact absurd uncreated (kindOf_creation creates)
    · rw [kindOf_clusterWide wide] at deletes
      contradiction
    · exact inside
  · contradiction

/-- What the new exchanges of an operation change. -/
theorem changes_of_sending {calls : List SdkCall} {s t : World} (sent : (sending calls).rel s t) :
    ∃ new, changes t.traffic = changes s.traffic ++ new ∧ ∀ c ∈ new, ∃ call ∈ calls, effect call = some c := by
  obtain ⟨new, traffic, mine⟩ := sent
  refine ⟨changes new, by rw [traffic, changes, List.filterMap_append]; rfl, ?_⟩
  intro c member
  obtain ⟨x, inside, made⟩ := List.mem_filterMap.mp member
  refine ⟨x.request, mine x inside, ?_⟩
  unfold accepted at made
  split at made
  · exact made
  · contradiction

theorem act_keeps {a : Address} (outside : a.ns ≠ env.kubernetesNamespace) (op : Op) (there : a ∈ objects w) :
    a ∈ objects (after (act env op) w) := by
  obtain ⟨new, made, own⟩ := changes_of_sending (Frames.after (act_sending op) w)
  rw [objects, made, standing_unless_removed]
  · exact .inl there
  · intro removed
    obtain ⟨call, member, removes⟩ := own _ removed
    exact outside (effect_removes (calls_within member) removes)

/-- In every run each request goes to the configured namespace, or creates something, or is about
the whole cluster; and so what stands in another namespace stands when the run is over. -/
theorem outside_stays (ops : List Op) :
    (∃ new, (run env w ops).traffic = w.traffic ++ new ∧ ∀ x ∈ new, Within env x.request) ∧
    ∀ a ∈ objects w, a.ns ≠ env.kubernetesNamespace → a ∈ objects (run env w ops) := by
  induction ops generalizing w with
  | nil => exact ⟨⟨[], (List.append_nil _).symm, by simp⟩, fun a there _ => there⟩
  | cons op ops ih =>
    obtain ⟨first, before, mine⟩ := Frames.after (act_sending op) w
    obtain ⟨⟨later, rest, yours⟩, kept⟩ := @ih (after (act env op) w)
    constructor
    · refine ⟨first ++ later, ?_, ?_⟩
      · change (run env (after (act env op) w) ops).traffic = _
        rw [rest, before, List.append_assoc]
      · intro x member
        rcases List.mem_append.mp member with member | member
        · exact calls_within (mine x member)
        · exact yours x member
    · intro a there outside
      exact kept a (act_keeps outside op there) outside

end Reach

/- Where the object is that a payload describes. -/
def addressOf (env : Kube) (kind : Kind) (payload : Obj) : Address :=
  ⟨kind, (resolve env (payload.field "namespace")).text, (payload.field "name").text⟩

/- In the configured namespace. -/
def Kube.address (env : Kube) (kind : Kind) (name : String) : Address := ⟨kind, env.kubernetesNamespace, name⟩

section Returns
variable {env : Kube} {w : World}

theorem request_spec (call : SdkCall) :
    wp (request env call) w
      (fun reply t => ∃ x : Exchange, t.traffic = w.traffic ++ [x] ∧ x.request = call ∧ x.outcome.result = .ok reply)
      (fun exc t => ∃ x : Exchange, t.traffic = w.traffic ++ [x] ∧ x.request = call ∧ x.outcome.result = .error exc) := by
  simp only [request, issue, elapse, ask, wp_bind, wp_get, wp_set, wp_pure, wp_modify]
  cases answer : (env.sdk w.tick call).result with
  | ok reply => exact ⟨⟨call, env.sdk w.tick call⟩, rfl, rfl, answer⟩
  | error exc => exact ⟨⟨call, env.sdk w.tick call⟩, rfl, rfl, answer⟩

/- The program makes no request. -/
abbrev Quiet {α : Type} (m : M α) : Prop := Frames (sending []) m

theorem traffic_of_quiet {s t : World} (quiet : (sending []).rel s t) : t.traffic = s.traffic := by
  obtain ⟨new, grown, none⟩ := quiet
  cases new with
  | nil => rw [grown, List.append_nil]
  | cons x new => exact absurd (none x List.mem_cons_self) List.not_mem_nil

/-- A part that makes no request, and what comes after it. -/
theorem quiet_bind {α β : Type} {m : M α} {f : α → M β} {Q : β → World → Prop} {E : Exc → World → Prop} (quiet : Quiet m)
    (rest : ∀ a t, t.traffic = w.traffic → wp (f a) t Q E) (raises : ∀ exc t, t.traffic = w.traffic → E exc t) :
    wp (m >>= f) w Q E := by
  rw [wp_bind]
  exact wp_mono (quiet w) (fun a t same => rest a t (traffic_of_quiet same))
    (fun exc t same => raises exc t (traffic_of_quiet same))

theorem guarded_wp {α : Type} {what : String} {body : M α} {Q : α → World → Prop} {E : World → Prop}
    (spec : wp body w Q (fun _ t => E t)) : wp (guarded what body) w Q (fun _ t => E t) := by
  rw [guarded, wp_tryCatch]
  refine wp_mono spec (fun _ _ h => h) (fun exc t raised => ?_)
  rw [wp_ite]
  split <;> exact raised

/-- A deletion that returns has been accepted, and one that raises has changed nothing. -/
theorem deleteOf_spec (kind : Kind) (name ns : Val) :
    wp (deleteOf env kind name ns) w
      (fun _ t => ∃ x, t.traffic = w.traffic ++ [x] ∧
        accepted x = some (.removes ⟨kind, (resolve env ns).text, name.text⟩))
      (fun _ t => changes t.traffic = changes w.traffic) := by
  refine guarded_wp (quiet_bind (getApi_sending _) (fun _ u before => ?_) (fun _ t same => by rw [same]))
  rw [wp_bind]
  refine wp_mono (request_spec _) ?_ ?_
  · rintro reply t ⟨x, sent, asked, answered⟩
    refine ⟨x, by rw [sent, before], ?_⟩
    simp only [accepted, answered, asked, effect_deletion]
  · rintro exc t ⟨x, sent, _, refused⟩
    simp [sent, before, changes, accepted, refused]

theorem nameIn_bodyOf (kind : Kind) (payload : Obj) : nameIn (bodyOf env kind payload) = (payload.field "name").text := by
  cases kind <;> rfl

/-- A creation that returns has been accepted. -/
theorem createOf_spec (kind : Kind) (serialize : Val → Except Exc Obj) (payload : Obj) :
    wp (createOf env kind serialize payload (bodyOf env kind payload)) w
      (fun _ t => changes t.traffic = changes w.traffic ++ [.adds (addressOf env kind payload)]) (fun _ _ => True) := by
  refine guarded_wp (quiet_bind (compose_sending _) (fun _ v composed => ?_) (fun _ _ _ => trivial))
  refine quiet_bind (getApi_sending _) (fun _ u ready => ?_) (fun _ _ _ => trivial)
  have before := ready.trans composed
  rw [wp_bind]
  refine wp_mono (request_spec _) ?_ (fun _ _ _ => trivial)
  rintro reply t ⟨x, sent, asked, answered⟩
  have made : changes t.traffic = changes w.traffic ++ [.adds (addressOf env kind payload)] := by
    rw [sent, before, changes, List.filterMap_append]
    simp [accepted, answered, asked, effect_creation, nameIn_bodyOf, addressOf, changes]
  cases fits : serialize reply.value with
  | ok o => exact made
  | error exc => trivial

/-- What a service establishes when it returns, so does its endpoint: the rest makes no request. -/
theorem tracked_returns {α : Type} {operationType targetType : String} {targetId failedTarget : Val} {service : M Any}
    {rest : Nat → Any → M α} {R : List Exchange → List Exchange → Prop}
    (spec : ∀ w, wp service w (fun _ t => R w.traffic t.traffic) (fun _ _ => True))
    (quiet : ∀ task a, Quiet (rest task a)) :
    wp (tracked env.toEnv operationType targetType targetId failedTarget (fun task => do rest task (← service))) w
      (fun _ t => R w.traffic t.traffic) (fun _ _ => True) := by
  refine quiet_bind (createTask_sending _ _ _) (fun task v created => ?_) (fun _ _ _ => trivial)
  refine quiet_bind (updateTask_sending _ _ _ _) (fun _ u running => ?_) (fun _ _ _ => trivial)
  rw [wp_tryCatch, wp_bind]
  refine wp_mono (spec u) ?_ ?_
  · intro a t served
    refine wp_mono (quiet task a t) ?_ ?_
    · intro _ last same
      rw [traffic_of_quiet same, ← created, ← running]
      exact served
    · intro exc last _
      rw [wp_bind]
      exact wp_mono (wp_true _ last) (fun _ _ _ => trivial) (fun _ _ _ => trivial)
  · intro exc t _
    rw [wp_bind]
    exact wp_mono (wp_true _ t) (fun _ _ _ => trivial) (fun _ _ _ => trivial)

theorem trackedCreate_returns {operationType targetType attr : String} {targetId failedTarget : Val} {service : M Any}
    {R : List Exchange → List Exchange → Prop}
    (spec : ∀ w, wp service w (fun _ t => R w.traffic t.traffic) (fun _ _ => True)) :
    wp (OpenStack.Endpoints.trackedCreate env.toEnv operationType targetType targetId failedTarget attr service) w
      (fun _ t => R w.traffic t.traffic) (fun _ _ => True) := by
  rw [OpenStack.Endpoints.trackedCreate]
  refine tracked_returns spec (fun task a => ?_)
  refine frames_bind (getattr_sending _ _) (fun id => frames_bind (updateTask_sending _ _ _ _) (fun _ => ?_))
  cases a with
  | model o => exact frames_pure _
  | val v => exact frames_bind (fun _ => sending_of_same rfl) (fun _ => frames_throw _)

theorem trackedAction_returns {operationType targetType targetId : String} {service : M Any}
    {R : List Exchange → List Exchange → Prop}
    (spec : ∀ w, wp service w (fun _ t => R w.traffic t.traffic) (fun _ _ => True)) :
    wp (OpenStack.Endpoints.trackedAction env.toEnv operationType targetType targetId service) w
      (fun _ t => R w.traffic t.traffic) (fun _ _ => True) := by
  rw [OpenStack.Endpoints.trackedAction, wp_bind]
  exact tracked_returns spec (fun task _ => frames_bind (updateTask_sending _ _ _ _) (fun _ => frames_pure _))

theorem create_returns {kind : Kind} {payload : Obj} {response : Response} {t : World}
    (made : Endpoints.create env kind payload w = .ok response t) :
    changes t.traffic = changes w.traffic ++ [.adds (addressOf env kind payload)] := by
  have whole (operationType targetType : String) (serialize : Val → Except Exc Obj) :
      wp (OpenStack.Endpoints.trackedCreate env.toEnv operationType targetType (payload.field "name") .none "name"
        (createOf env kind serialize payload (bodyOf env kind payload))) w
        (fun _ t => changes t.traffic = changes w.traffic ++ [.adds (addressOf env kind payload)]) (fun _ _ => True) :=
    trackedCreate_returns (R := fun old new => changes new = changes old ++ [.adds (addressOf env kind payload)])
      (fun w => @createOf_spec env w kind serialize payload)
  refine wp_of_ok (m := Endpoints.create env kind payload) (s := w) (E := fun _ _ => True)
    (Q := fun _ t => changes t.traffic = changes w.traffic ++ [.adds (addressOf env kind payload)]) ?_ made
  cases kind with
  | pod => exact whole _ _ (serializePod env)
  | deployment => exact whole _ _ serializeDeployment
  | service => exact whole _ _ serializeService

theorem delete_returns {kind : Kind} {name : String} {response : Response} {t : World}
    (removed : Endpoints.delete env kind name w = .ok response t) :
    changes t.traffic = changes w.traffic ++ [.removes (env.address kind name)] := by
  have spec (w : World) : wp (deleteOf env kind (.str name) .none) w
      (fun _ t => changes t.traffic = changes w.traffic ++ [.removes (env.address kind name)]) (fun _ _ => True) := by
    refine wp_mono (deleteOf_spec kind (.str name) .none) ?_ (fun _ _ _ => trivial)
    rintro _ t ⟨x, sent, done⟩
    rw [sent, changes, List.filterMap_append]
    simp [done, changes, Kube.address, resolve, Val.or, Val.truthy, Val.text]
  have whole (operationType targetType : String) :
      wp (OpenStack.Endpoints.trackedAction env.toEnv operationType targetType name (deleteOf env kind (.str name) .none)) w
        (fun _ t => changes t.traffic = changes w.traffic ++ [.removes (env.address kind name)]) (fun _ _ => True) :=
    trackedAction_returns (R := fun old new => changes new = changes old ++ [.removes (env.address kind name)]) spec
  refine wp_of_ok (m := Endpoints.delete env kind name) (s := w) (E := fun _ _ => True)
    (Q := fun _ t => changes t.traffic = changes w.traffic ++ [.removes (env.address kind name)]) ?_ removed
  cases kind <;> exact whole _ _

/-- What a removal in the configured namespace does to an object that stood some time before. -/
theorem gone_iff {a : Address} {t u : World} {ops : List Op} {gone : List (Change Address)} (there : a ∈ objects t)
    (rest : changes u.traffic = changes (run env t ops).traffic ++ gone)
    (within : ∀ c ∈ gone, ∃ kind name, c = .removes (env.address kind name))
    (own : .removes (env.address a.kind a.name) ∈ gone) : a ∉ objects u ↔ a.ns = env.kubernetesNamespace := by
  rw [objects, rest]
  constructor
  · intro absent
    by_contra outside
    refine absent ((standing_unless_removed ?_).mpr (.inl ((outside_stays ops).2 a there outside)))
    intro removed
    obtain ⟨kind, name, same⟩ := within _ removed
    exact outside (congrArg Address.ns (Change.removes.inj same))
  · intro inside
    have same : a = env.address a.kind a.name := by rw [Kube.address, ← inside]
    refine absent_of_removed (same ▸ own) ?_
    intro added
    obtain ⟨kind, name, other⟩ := within _ added
    contradiction

/-- Between a creation and a deletion under its name, with anything in between, both answered: the
object that was created is gone exactly if its payload has named the configured namespace. -/
theorem created_deleted_iff {kind : Kind} {payload : Obj} {response answer : Response} {t u : World} {ops : List Op}
    (made : Endpoints.create env kind payload w = .ok response t)
    (removed : Endpoints.delete env kind (payload.field "name").text (run env t ops) = .ok answer u) :
    addressOf env kind payload ∉ objects u ↔ (resolve env (payload.field "namespace")).text = env.kubernetesNamespace := by
  refine @gone_iff _ (addressOf env kind payload) t u ops _ ?_ (delete_returns removed) ?_ (List.mem_singleton_self _)
  · rw [objects, create_returns made, standing_unless_removed]
    · exact .inr (List.mem_singleton_self _)
    · simp
  · intro c member
    exact ⟨kind, _, List.mem_singleton.mp member⟩

end Returns

/- A server that accepts everything, and answers with an object called web in the namespace prod. -/
def agreeable : Kube where
  toEnv := { obligingCloud with
    sdk := fun _ _ => { result := .ok ⟨.dict [("metadata", .dict [("name", .str "web"), ("namespace", .str "prod")])], none⟩ } }
  kubernetesKubeconfigPath := "/etc/kubernetes/config"
  kubernetesInCluster := false
  kubernetesNamespace := "default"
  load _ := none
  compose _ _ := none
  toInt _ := none

def webPod : Obj where
  cls := "PodCreateRequest"
  attrs := [("name", .str "web"), ("image", .str "nginx:latest"), ("namespace", .str "prod"), ("port", .int 80),
    ("labels", .dict []), ("replicas", .int 1)]

/-- A pod in another namespace is deleted by its name, and is still there. -/
theorem web_pod_stays : ∃ response t answer u, Endpoints.create agreeable .pod webPod .initial = .ok response t ∧
    Endpoints.delete agreeable .pod "web" (run agreeable t [.list .pod]) = .ok answer u ∧
    addressOf agreeable .pod webPod ∈ objects u := by
  refine ⟨_, _, _, _, rfl, rfl, ?_⟩
  by_contra gone
  have inside := (@created_deleted_iff agreeable .initial .pod webPod _ _ _ _ [.list .pod] rfl rfl).mp gone
  exact absurd inside (by decide)

section Workloads
variable {env : Kube} {w : World} {name : String}

/-- The fields of an instance are those its keyword arguments give. -/
theorem built_field {schema : Schema} {kwargs : List (String × Val)} {payload : Obj} {f : Field}
    (built : validate schema kwargs = .ok payload) (distinct : (schema.fields.map Field.name).Nodup)
    (member : f ∈ schema.fields) : f.value kwargs = some (payload.field f.name) := by
  unfold validate Schema.construct at built
  dsimp only at built
  split at built
  · rename_i o constructed
    split at constructed
    · rename_i fine
      cases constructed
      cases built
      have given : (f.value kwargs).isSome = true := by
        have good := List.filter_eq_nil_iff.mp (List.isEmpty_iff.mp fine) f member
        exact Option.isSome_iff_ne_none.mpr (by simpa using good)
      obtain ⟨v, value⟩ := Option.isSome_iff_exists.mp given
      rw [Obj.field, Obj.getattr, lookup_map_of_mem distinct member, value]
      rfl
    · contradiction
  · contradiction

/- Where the manager creates the parts of a workload. -/
def workloadPart (kind : Kind) (name : String) : Address := ⟨kind, "default", name⟩

/-- The manager leaves the namespace to the default of the request. -/
theorem addressOf_built {kind : Kind} {schema : Schema} {kwargs : List (String × Val)} {payload : Obj}
    (built : validate schema kwargs = .ok payload) (distinct : (schema.fields.map Field.name).Nodup)
    (named : objectName ∈ schema.fields) (placed : defaulted "namespace" .str (.str "default") ∈ schema.fields)
    (given : kwargs.lookup "name" = some (.str name)) (left : kwargs.lookup "namespace" = none) :
    addressOf env kind payload = workloadPart kind name := by
  have own : payload.field "name" = .str name := value_of_given (f := objectName) given (built_field built distinct named)
  have ns : payload.field "namespace" = .str "default" := by
    have value := built_field built distinct placed
    simp only [Field.value, defaulted, left] at value
    exact (Option.some.inj value).symm
  rw [addressOf, own, ns]
  rfl

/-- A deployment of a workload that returns has created both parts. -/
theorem deployWorkload_returns {image : String} {replicas : Int} {port : Val} {pair : Any × Any} {t : World}
    (made : deployWorkload env name image replicas port w = .ok pair t) :
    changes t.traffic =
      changes w.traffic ++ [.adds (workloadPart .deployment name), .adds (workloadPart .service name)] := by
  refine wp_of_ok (m := deployWorkload env name image replicas port) (s := w) (E := fun _ _ => True)
    (Q := fun _ t => changes t.traffic =
      changes w.traffic ++ [.adds (workloadPart .deployment name), .adds (workloadPart .service name)]) ?_ made
  rw [deployWorkload, wp_bind]
  cases deployment : validate deploymentCreateRequestSchema (deploymentKwargs name image replicas port) with
  | error exc =>
    rw [deploymentKwargs] at deployment
    rw [deployment]
    trivial
  | ok first =>
    have placed := @addressOf_built env name .deployment _ _ _ deployment (by decide) (by simp [deploymentCreateRequestSchema])
      (by simp [deploymentCreateRequestSchema]) rfl rfl
    rw [deploymentKwargs] at deployment
    rw [deployment, wp_ofExcept_ok, wp_bind]
    refine wp_mono (createOf_spec .deployment serializeDeployment first) ?_ (fun _ _ _ => trivial)
    intro dep u before
    rw [wp_bind]
    cases service : validate serviceCreateRequestSchema (serviceKwargs name port) with
    | error exc =>
      rw [serviceKwargs] at service
      rw [service]
      trivial
    | ok second =>
      have other := @addressOf_built env name .service _ _ _ service (by decide) (by simp [serviceCreateRequestSchema])
        (by simp [serviceCreateRequestSchema]) rfl rfl
      rw [serviceKwargs] at service
      rw [service, wp_ofExcept_ok, wp_bind]
      refine wp_mono (createOf_spec .service serializeService second) ?_ (fun _ _ _ => trivial)
      intro svc t later
      rw [wp_pure, later, before, placed, other, List.append_assoc]
      rfl

theorem resolve_none : resolve env .none = .str env.kubernetesNamespace := rfl

/-- A removal of a workload that raises, or returns, has deleted the service first. -/
theorem removeWorkload_spec :
    wp (removeWorkload env name) w
      (fun _ t => changes t.traffic = changes w.traffic ++
        [.removes (env.address .service name), .removes (env.address .deployment name)] ∧
        ∃ x later, t.traffic = w.traffic ++ x :: later ∧ accepted x = some (.removes (env.address .service name)))
      (fun _ t => changes t.traffic = changes w.traffic ∨
        ∃ x later, t.traffic = w.traffic ++ x :: later ∧ accepted x = some (.removes (env.address .service name))) := by
  rw [removeWorkload, wp_bind]
  refine wp_mono (deleteOf_spec .service (.str name) .none) ?_ (fun _ t same => .inl same)
  rintro _ u ⟨x, first, done⟩
  rw [wp_bind]
  have grows : Frames (sending [deletion env .deployment name]) (deleteOf env .deployment (.str name) .none) :=
    deleteOf_sending _ _ _ (List.mem_singleton_self _)
  refine wp_mono (wp_and (deleteOf_spec .deployment (.str name) .none) (grows u)) ?_ ?_
  · rintro _ t ⟨⟨y, second, also⟩, _⟩
    rw [wp_pure]
    constructor
    · rw [second, first, changes, List.append_assoc, List.filterMap_append]
      simp [done, also, changes, Kube.address, resolve_none, Val.text]
    · exact ⟨x, [y], by rw [second, first, List.append_assoc]; rfl, done⟩
  · rintro exc t ⟨_, new, second, _⟩
    exact .inr ⟨x, new, by rw [second, first, List.append_assoc]; rfl, done⟩

/-- After a deployment and a removal of a workload, with anything in between, both answered: each of
its parts is gone exactly if the configured namespace is the default of the requests. -/
theorem workload_removed_iff {image : String} {replicas : Int} {port : Val} {pair : Any × Any} {t u : World} {ops : List Op}
    (made : deployWorkload env name image replicas port w = .ok pair t)
    (removed : removeWorkload env name (run env t ops) = .ok () u) {kind : Kind} (part : kind ≠ .pod) :
    workloadPart kind name ∉ objects u ↔ env.kubernetesNamespace = "default" := by
  refine Iff.trans (@gone_iff env (workloadPart kind name) t u ops _ ?_ (wp_of_ok removeWorkload_spec removed).1 ?_ ?_) eq_comm
  · rw [objects, deployWorkload_returns made, standing_unless_removed (by simp)]
    cases kind with
    | pod => contradiction
    | deployment => simp
    | service => simp
  · intro c member
    simp only [List.mem_cons, List.not_mem_nil, or_false] at member
    rcases member with rfl | rfl
    · exact ⟨.service, name, rfl⟩
    · exact ⟨.deployment, name, rfl⟩
  · cases kind with
    | pod => contradiction
    | deployment => simp [workloadPart]
    | service => simp [workloadPart]

/-- A workload that is removed in the namespace it was deployed in. -/
theorem web_workload_gone : ∃ pair t u, deployWorkload agreeable "web" "nginx:latest" 2 (.int 80) .initial = .ok pair t ∧
    removeWorkload agreeable "web" (run agreeable t [.clusterInfo]) = .ok () u ∧
    workloadPart .deployment "web" ∉ objects u ∧ workloadPart .service "web" ∉ objects u := by
  refine ⟨_, _, _, rfl, rfl, ?_, ?_⟩
  · exact (@workload_removed_iff agreeable .initial "web" "nginx:latest" 2 (.int 80) _ _ _ [.clusterInfo] rfl rfl
      .deployment (by simp)).mpr rfl
  · exact (@workload_removed_iff agreeable .initial "web" "nginx:latest" 2 (.int 80) _ _ _ [.clusterInfo] rfl rfl
      .service (by simp)).mpr rfl

/- The server does not delete what does not stand. -/
def Refuses (a : Address) (traffic : List Exchange) : Prop :=
  ∀ before x later, traffic = before ++ x :: later → accepted x = some (.removes a) → a ∈ standing (changes before)

theorem Refuses.of_append {a : Address} {first rest : List Exchange} (refuses : Refuses a (first ++ rest)) :
    Refuses a first := by
  intro before x later same
  exact refuses before x (later ++ rest) (by rw [same, List.append_assoc]; rfl)

/- The operation neither creates a service of that name nor deletes the deployment by itself. -/
def Spares (env : Kube) (name : String) (op : Op) : Prop :=
  (∀ call ∈ op.calls env, effect call ≠ some (.adds (env.address .service name))) ∧
  (op = .removeWorkload name ∨ ∀ call ∈ op.calls env, effect call ≠ some (.removes (env.address .deployment name)))

/- Half of the workload is there. -/
def Halved (env : Kube) (name : String) (w : World) : Prop :=
  env.address .service name ∉ objects w ∧ env.address .deployment name ∈ objects w

/-- Without its service, the removal of a workload raises and changes nothing. -/
theorem removeWorkload_halved (halved : Halved env name w)
    (refuses : Refuses (env.address .service name) (after (removeWorkload env name) w).traffic) :
    ∃ exc t, removeWorkload env name w = .error exc t ∧ changes t.traffic = changes w.traffic := by
  have never {t : World} (ended : after (removeWorkload env name) w = t) : ¬ ∃ x later, t.traffic = w.traffic ++ x :: later ∧
      accepted x = some (.removes (env.address .service name)) := by
    rintro ⟨x, later, sent, done⟩
    rw [ended] at refuses
    exact halved.1 (refuses _ x later sent done)
  have spec := @removeWorkload_spec env w name
  cases ended : removeWorkload env name w with
  | ok _ t => exact absurd (wp_of_ok spec ended).2 (never (by simp [after, ended]))
  | error exc t =>
    obtain same | removed := wp_of_error spec ended
    · exact ⟨exc, t, rfl, same⟩
    · exact absurd removed (never (by simp [after, ended]))

theorem act_halved {op : Op} (spares : Spares env name op) (halved : Halved env name w)
    (refuses : Refuses (env.address .service name) (after (act env op) w).traffic) :
    Halved env name (after (act env op) w) := by
  obtain ⟨unmade, removal | undeleted⟩ := spares
  · subst removal
    obtain ⟨exc, t, ended, same⟩ := removeWorkload_halved halved refuses
    have last : after (act env (.removeWorkload name)) w = t := by simp [after, act, ended]
    rw [last, Halved, objects, same]
    exact halved
  · obtain ⟨new, made, own⟩ := changes_of_sending (Frames.after (act_sending op) w)
    rw [Halved, objects, made]
    constructor
    · refine absent_unless_added halved.1 ?_
      intro added
      obtain ⟨call, member, adds⟩ := own _ added
      exact unmade call member adds
    · refine (standing_unless_removed ?_).mpr (.inl halved.2)
      intro removed
      obtain ⟨call, member, removes⟩ := own _ removed
      exact undeleted call member removes

theorem run_concat (ops : List Op) (op : Op) : run env w (ops ++ [op]) = after (act env op) (run env w ops) := by
  rw [run, List.foldl_append]
  rfl

/-- A workload that has lost its service and not its deployment stays so: however often it is removed,
and whatever else is done, every removal raises and the deployment stands, as long as nobody creates
such a service or deletes the deployment by itself. -/
theorem half_removed_stays {ops : List Op} (spares : ∀ op ∈ ops, Spares env name op) (halved : Halved env name w)
    (refuses : Refuses (env.address .service name) (run env w ops).traffic) :
    Halved env name (run env w ops) ∧ ∀ before later, ops = before ++ .removeWorkload name :: later →
      ∃ exc t, removeWorkload env name (run env w before) = .error exc t := by
  induction ops using List.reverseRecOn with
  | nil => exact ⟨halved, by simp⟩
  | append_singleton ops op ih =>
    rw [run_concat] at refuses ⊢
    obtain ⟨new, grown, _⟩ := Frames.after (act_sending op) (run env w ops)
    have first : Refuses (env.address .service name) (run env w ops).traffic := (grown ▸ refuses).of_append
    obtain ⟨still, raises⟩ := ih (fun op member => spares op (List.mem_append_left _ member)) first
    refine ⟨act_halved (spares op (List.mem_append_right _ (List.mem_singleton_self op))) still refuses, ?_⟩
    intro before later same
    rcases List.eq_nil_or_concat later with rfl | ⟨rest, last, rfl⟩
    · obtain ⟨rfl, here⟩ := List.append_inj' same rfl
      cases here
      obtain ⟨exc, t, ended, _⟩ := removeWorkload_halved still refuses
      exact ⟨exc, t, ended⟩
    · rw [List.concat_eq_append, ← List.cons_append, ← List.append_assoc] at same
      obtain ⟨shorter, _⟩ := List.append_inj' same rfl
      exact raises before rest shorter

end Workloads

/- A server that finds no service. -/
def forgetful : Kube where
  toEnv := { obligingCloud with
    sdk := fun _ request =>
      if request.operation = Kind.service.operation "delete" then { result := .error (.foreign "ApiException" "(404)") }
      else { result := .ok ⟨.dict [("items", .list [])], none⟩ } }
  kubernetesKubeconfigPath := "/etc/kubernetes/config"
  kubernetesInCluster := false
  kubernetesNamespace := "default"
  load _ := none
  compose _ _ := none
  toInt _ := none

/- A deployment has been created, and no service. -/
def onlyDeployment : World :=
  { World.initial with
    traffic := [⟨createCall .deployment (.str "default") (.dict [("metadata", .dict [("name", .str "web")])]),
      { result := .ok ⟨.none, none⟩ }⟩] }

theorem web_deployment_stays :
    Halved forgetful "web" (run forgetful onlyDeployment [.removeWorkload "web", .list .deployment, .removeWorkload "web"]) := by
  have removal : Spares forgetful "web" (.removeWorkload "web") :=
    ⟨by simp [Op.calls, deletion, effect_deletion], .inl rfl⟩
  have listing : Spares forgetful "web" (.list .deployment) := by
    have none : effect (listCall .deployment (.str "default")) = none := by decide +kernel
    simp [Spares, Op.calls, forgetful, none]
  refine (half_removed_stays ?_ ?_ ?_).1
  · intro op member
    simp only [List.mem_cons, List.not_mem_nil, or_false] at member
    rcases member with rfl | rfl | rfl
    · exact removal
    · exact listing
    · exact removal
  · constructor
    · decide +kernel
    · decide +kernel
  · intro before x later same removes
    have none : ∀ x ∈ (run forgetful onlyDeployment [.removeWorkload "web", .list .deployment, .removeWorkload "web"]).traffic,
        accepted x ≠ some (.removes (forgetful.address .service "web")) := by
      decide +kernel
    exact absurd removes (none x (by rw [same]; simp))

end VMachine.Kubernetes
