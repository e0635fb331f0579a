import VMachine.Kubernetes.Addressing

/-! What the tasks of the Kubernetes endpoints say. An object may have been created, or scaled, while
the task says that this has failed: the answer has yet to fit the summary. -/
namespace VMachine.Kubernetes
open Py Effects OpenStack Standing

def serializerOf (env : Kube) : Kind → Val → Except Exc Obj
  | .pod => serializePod env
  | .deployment => serializeDeployment
  | .service => serializeService

def summarySchemaOf : Kind → Schema
  | .pod => podSummarySchema
  | .deployment => deploymentSummarySchema
  | .service => serviceSummarySchema

section Grants
variable (env : Kube) (w : World)

/- The configuration is there and loads, at the question. -/
def Ready (n : Nat) : Prop := env.kubernetesReady = true ∧ env.load n = none

def Accepted (n : Nat) (call : SdkCall) (reply : Reply) : Prop := (env.sdk n call).result = .ok reply

/- The server has created the object. The first two questions are those for the task. -/
def Created (kind : Kind) (payload : Obj) (reply : Reply) : Prop :=
  env.compose (w.tick + 2) (bodyOf env kind payload) = none ∧ Ready env (w.tick + 3) ∧
    Accepted env (w.tick + 4) (creation env kind payload) reply

def scaleBody (payload : Obj) : Val := .dict [("spec", .dict [("replicas", payload.field "replicas")])]

def Scaled (name : String) (payload : Obj) : Prop :=
  env.compose (w.tick + 2) (scaleBody payload) = none ∧ Ready env (w.tick + 3) ∧
    ∃ reply, Accepted env (w.tick + 4)
      (patchScaleCall (.str name) (.str env.kubernetesNamespace) (scaleBody payload)) reply

/- What the task of an operation claims. -/
def Op.Granted : Op → Prop
  | .create kind payload => ∃ reply o, Created env w kind payload reply ∧ serializerOf env kind reply.value = .ok o
  | .delete kind name => Ready env (w.tick + 2) ∧ ∃ reply, Accepted env (w.tick + 3) (deletion env kind name) reply
  | .scale name payload => Scaled env w name payload ∧ ∃ reply o,
      Accepted env (w.tick + 5) (readCall .deployment (.str name) (.str env.kubernetesNamespace)) reply ∧
      serializeDeployment reply.value = .ok o
  | _ => False

end Grants

/- The handler returns exactly if it is granted, its task says which of the two it was, and what
it has changed is `P`. -/
def Tells (granted : Prop) (P : List (Change Address) → Prop) (m : M Response) (w : World) : Prop :=
  wp m w
    (fun _ t => (granted ∧ (t.tasks[w.tasks.length]?).map OperationTask.state = some .succeeded) ∧ P (changes t.traffic))
    (fun _ t => (¬ granted ∧ (t.tasks[w.tasks.length]?).map OperationTask.state = some .failed) ∧ P (changes t.traffic))

/- What a creation, or a deletion, adds to the changes. -/
def Adds (c : Change Address) (made : Prop) (w : World) (all : List (Change Address)) : Prop :=
  (made ∧ all = changes w.traffic ++ [c]) ∨ (¬ made ∧ all = changes w.traffic)

section Tells
variable {env : Kube} {w : World} {granted : Prop} {P : List (Change Address) → Prop} {operationType targetType : String} {service : M Any}

theorem trackedCreate_tells (up : ∀ n, env.databaseUp n = true) {targetId failedTarget : Val} {schema : Schema}
    (named : "name" ∈ schema.fields.map Field.name)
    (spec : wp service (w.begun operationType targetType targetId)
      (fun r t => ((granted ∧ ∃ o, r = .model o ∧ o.Valid schema) ∧
        t.tasks = (w.begun operationType targetType targetId).tasks) ∧ P (changes t.traffic))
      (fun _ t => (¬ granted ∧ t.tasks = (w.begun operationType targetType targetId).tasks) ∧ P (changes t.traffic))) :
    Tells granted P (OpenStack.Endpoints.trackedCreate env.toEnv operationType targetType targetId failedTarget "name" service) w := by
  rw [Tells, OpenStack.Endpoints.trackedCreate, tracked_wp up, wp_bind]
  refine wp_mono spec ?_ ?_
  · rintro _ t ⟨⟨⟨grants, o, rfl, valid⟩, same⟩, holds⟩
    have there := task_begun same
    simp only [Any.getattr, getattr_field valid named, wp_bind, wp_pure]
    rw [updateTask_wp (up _) there]
    exact ⟨⟨grants, update_tells there _ _ _ _⟩, holds⟩
  · rintro exc t ⟨⟨denied, same⟩, holds⟩
    have there := task_begun same
    rw [updateTask_wp (up _) there]
    exact ⟨⟨denied, update_tells there _ _ _ _⟩, holds⟩

theorem trackedAction_tells (up : ∀ n, env.databaseUp n = true) {targetId : String}
    (spec : wp service (w.begun operationType targetType (.str targetId))
      (fun _ t => (granted ∧ t.tasks = (w.begun operationType targetType (.str targetId)).tasks) ∧ P (changes t.traffic))
      (fun _ t => (¬ granted ∧ t.tasks = (w.begun operationType targetType (.str targetId)).tasks) ∧
        P (changes t.traffic))) :
    Tells granted P (OpenStack.Endpoints.trackedAction env.toEnv operationType targetType targetId service) w := by
  rw [Tells, OpenStack.Endpoints.trackedAction, wp_bind, tracked_wp up, wp_bind]
  refine wp_mono spec ?_ ?_
  · rintro _ t ⟨⟨grants, same⟩, holds⟩
    have there := task_begun same
    rw [wp_bind, updateTask_wp (up _) there]
    exact ⟨⟨grants, update_tells there _ _ _ _⟩, holds⟩
  · rintro exc t ⟨⟨denied, same⟩, holds⟩
    have there := task_begun same
    rw [updateTask_wp (up _) there]
    exact ⟨⟨denied, update_tells there _ _ _ _⟩, holds⟩

end Tells

section Services
variable {env : Kube} {w : World}

theorem getApi_spec (api : String) :
    wp (getApi env api) w (fun _ t => Ready env w.tick ∧ t = { w with tick := w.tick + 1 })
      (fun _ t => ¬ Ready env w.tick ∧ t.tasks = w.tasks ∧ t.traffic = w.traffic) := by
  unfold getApi Ready
  cases ready : env.kubernetesReady with
  | false => simp
  | true =>
    simp only [if_true, ask, wp_bind, wp_get, wp_set, wp_pure]
    cases loaded : env.load w.tick with
    | none => simp
    | some exc =>
      rw [wp_ite]
      split <;> simp

theorem request_answered (call : SdkCall) :
    wp (request env call) w
      (fun reply t => Accepted env w.tick call reply ∧ (t.tasks = w.tasks ∧ t.tick = w.tick + 1) ∧
        changes t.traffic = changes w.traffic ++ (effect call).toList)
      (fun _ t => ¬ (∃ reply, Accepted env w.tick call reply) ∧ t.tasks = w.tasks ∧
        changes t.traffic = changes w.traffic) := by
  simp only [request, issue, elapse, ask, Accepted, wp_bind, wp_get, wp_set, wp_pure, wp_modify, changes]
  cases answer : (env.sdk w.tick call).result with
  | ok reply =>
    have made : accepted ⟨call, env.sdk w.tick call⟩ = effect call := by simp only [accepted, answer]
    cases does : effect call <;> simp [made, does]
  | error exc => simp [accepted, answer]

theorem compose_spec (body : Val) :
    wp (compose env body) w (fun _ t => env.compose w.tick body = none ∧ t = { w with tick := w.tick + 1 })
      (fun _ t => env.compose w.tick body ≠ none ∧ t.tasks = w.tasks ∧ t.traffic = w.traffic) := by
  simp only [compose, ask, wp_bind, wp_get, wp_set, wp_pure]
  cases env.compose w.tick body with
  | none => simp
  | some exc => simp

/-- What is serialized is an instance of its summary. -/
theorem serializerOf_valid {kind : Kind} {v : Val} {o : Obj} (fits : serializerOf env kind v = .ok o) :
    o.Valid (summarySchemaOf kind) := by
  cases kind with
  | pod =>
    obtain ⟨raw, _, fits⟩ := ok_of_bind fits
    obtain ⟨containers, _, fits⟩ := ok_of_bind fits
    obtain ⟨labels, _, fits⟩ := ok_of_bind fits
    exact valid_of_validate fits
  | deployment => exact valid_of_validate fits
  | service =>
    obtain ⟨ports, _, fits⟩ := ok_of_bind fits
    exact valid_of_validate fits

/-- A creation returns exactly if the object is created and the answer fits. -/
theorem createOf_tells (kind : Kind) (payload : Obj) {created : Reply → Prop}
    (same : ∀ reply, created reply ↔ env.compose w.tick (bodyOf env kind payload) = none ∧ Ready env (w.tick + 1) ∧
      Accepted env (w.tick + 2) (creation env kind payload) reply) :
    wp (createOf env kind (serializerOf env kind) payload (bodyOf env kind payload)) w
      (fun r t => (((∃ reply o, created reply ∧ serializerOf env kind reply.value = .ok o) ∧
          ∃ o, r = .model o ∧ o.Valid (summarySchemaOf kind)) ∧ t.tasks = w.tasks) ∧
        Adds (.adds (addressOf env kind payload)) (∃ reply, created reply) w (changes t.traffic))
      (fun _ t => (¬ (∃ reply o, created reply ∧ serializerOf env kind reply.value = .ok o) ∧ t.tasks = w.tasks) ∧
        Adds (.adds (addressOf env kind payload)) (∃ reply, created reply) w (changes t.traffic)) := by
  simp only [same]
  refine guarded_wp ?_
  rw [wp_bind]
  refine wp_mono (compose_spec _) ?_ ?_
  · rintro _ _ ⟨composed, rfl⟩
    rw [wp_bind]
    refine wp_mono (getApi_spec _) ?_ ?_
    · rintro _ _ ⟨ready, rfl⟩
      rw [wp_bind]
      refine wp_mono (request_answered _) ?_ ?_
      · rintro reply t ⟨answered, ⟨tasks, _⟩, made⟩
        rw [effect_creation, nameIn_bodyOf] at made
        cases fits : serializerOf env kind reply.value with
        | ok o =>
          exact ⟨⟨⟨⟨reply, o, ⟨composed, ready, answered⟩, fits⟩, o, rfl, serializerOf_valid fits⟩, tasks⟩,
            .inl ⟨⟨reply, composed, ready, answered⟩, made⟩⟩
        | error exc =>
          refine ⟨⟨?_, tasks⟩, .inl ⟨⟨reply, composed, ready, answered⟩, made⟩⟩
          rintro ⟨other, o, ⟨_, _, also⟩, fitting⟩
          cases answered.symm.trans also
          exact absurd (fits.symm.trans fitting) (by simp)
      · rintro exc t ⟨refused, tasks, unmade⟩
        exact ⟨⟨fun ⟨reply, o, ⟨_, _, answered⟩, _⟩ => refused ⟨reply, answered⟩, tasks⟩,
          .inr ⟨fun ⟨reply, _, _, answered⟩ => refused ⟨reply, answered⟩, unmade⟩⟩
    · rintro exc t ⟨unready, tasks, traffic⟩
      exact ⟨⟨fun ⟨reply, o, ⟨_, ready, _⟩, _⟩ => unready ready, tasks⟩,
        .inr ⟨fun ⟨reply, _, ready, _⟩ => unready ready, by rw [traffic]⟩⟩
  · rintro exc t ⟨uncomposed, tasks, traffic⟩
    exact ⟨⟨fun ⟨reply, o, ⟨composed, _⟩, _⟩ => uncomposed composed, tasks⟩,
      .inr ⟨fun ⟨reply, composed, _⟩ => uncomposed composed, by rw [traffic]⟩⟩

theorem deleteOf_tells (kind : Kind) (name : String) :
    wp (deleteOf env kind (.str name) .none) w
      (fun _ t => ((Ready env w.tick ∧ ∃ reply, Accepted env (w.tick + 1) (deletion env kind name) reply) ∧
          t.tasks = w.tasks) ∧ Adds (.removes (env.address kind name))
          (Ready env w.tick ∧ ∃ reply, Accepted env (w.tick + 1) (deletion env kind name) reply) w (changes t.traffic))
      (fun _ t => (¬ (Ready env w.tick ∧ ∃ reply, Accepted env (w.tick + 1) (deletion env kind name) reply) ∧
          t.tasks = w.tasks) ∧ Adds (.removes (env.address kind name))
          (Ready env w.tick ∧ ∃ reply, Accepted env (w.tick + 1) (deletion env kind name) reply) w (changes t.traffic)) := by
  refine guarded_wp ?_
  rw [wp_bind]
  refine wp_mono (getApi_spec _) ?_ ?_
  · rintro _ _ ⟨ready, rfl⟩
    rw [wp_bind]
    refine wp_mono (request_answered _) ?_ ?_
    · rintro reply t ⟨answered, ⟨tasks, _⟩, made⟩
      rw [effect_deletion] at made
      exact ⟨⟨⟨ready, reply, answered⟩, tasks⟩, .inl ⟨⟨ready, reply, answered⟩, made⟩⟩
    · rintro exc t ⟨refused, tasks, unmade⟩
      exact ⟨⟨fun granted => refused granted.2, tasks⟩, .inr ⟨fun granted => refused granted.2, unmade⟩⟩
  · rintro exc t ⟨unready, tasks, traffic⟩
    exact ⟨⟨fun granted => unready granted.1, tasks⟩, .inr ⟨fun granted => unready granted.1, by rw [traffic]⟩⟩

/-- A deployment may have been scaled when this raises, since it is read again. -/
theorem scaleDeployment_tells (name : String) (payload : Obj) {scaled : Prop}
    (same : scaled ↔ env.compose w.tick (scaleBody payload) = none ∧ Ready env (w.tick + 1) ∧ ∃ reply,
      Accepted env (w.tick + 2) (patchScaleCall (.str name) (.str env.kubernetesNamespace) (scaleBody payload)) reply)
    {reread : Reply → Prop} (again : ∀ reply, reread reply ↔
      Accepted env (w.tick + 3) (readCall .deployment (.str name) (.str env.kubernetesNamespace)) reply) :
    wp (scaleDeployment env (.str name) payload .none) w
      (fun r t => (((scaled ∧ ∃ reply o, reread reply ∧ serializeDeployment reply.value = .ok o) ∧
          ∃ o, r = .model o ∧ o.Valid deploymentSummarySchema) ∧ t.tasks = w.tasks) ∧
        changes t.traffic = changes w.traffic)
      (fun _ t => (¬ (scaled ∧ ∃ reply o, reread reply ∧ serializeDeployment reply.value = .ok o) ∧ t.tasks = w.tasks) ∧
        changes t.traffic = changes w.traffic) := by
  simp only [same, again]
  refine guarded_wp ?_
  rw [wp_bind]
  refine wp_mono (compose_spec _) ?_ ?_
  · rintro _ _ ⟨composed, rfl⟩
    rw [wp_bind]
    refine wp_mono (getApi_spec _) ?_ ?_
    · rintro _ _ ⟨ready, rfl⟩
      rw [wp_bind]
      refine wp_mono (request_answered _) ?_ ?_
      · rintro patch u ⟨patched, ⟨before, tick⟩, unchanged⟩
        have quiet : changes u.traffic = changes w.traffic := unchanged.trans (List.append_nil _)
        rw [wp_bind]
        refine wp_mono (request_answered _) ?_ ?_
        · rintro reply t ⟨answered, ⟨tasks, _⟩, still⟩
          rw [tick] at answered
          have kept : changes t.traffic = changes w.traffic := (still.trans (List.append_nil _)).trans quiet
          cases fits : serializeDeployment reply.value with
          | ok o =>
            exact ⟨⟨⟨⟨⟨composed, ready, patch, patched⟩, reply, o, answered, fits⟩, o, rfl, valid_of_validate fits⟩,
              tasks.trans before⟩, kept⟩
          | error exc =>
            refine ⟨⟨?_, tasks.trans before⟩, kept⟩
            rintro ⟨_, other, o, also, fitting⟩
            cases answered.symm.trans also
            exact absurd (fits.symm.trans fitting) (by simp)
        · rintro exc t ⟨refused, tasks, still⟩
          rw [tick] at refused
          exact ⟨⟨fun ⟨_, reply, o, answered, _⟩ => refused ⟨reply, answered⟩, tasks.trans before⟩, still.trans quiet⟩
      · rintro exc t ⟨refused, tasks, still⟩
        exact ⟨⟨fun granted => refused granted.1.2.2, tasks⟩, still⟩
    · rintro exc t ⟨unready, tasks, traffic⟩
      exact ⟨⟨fun granted => unready granted.1.2.1, tasks⟩, by rw [traffic]⟩
  · rintro exc t ⟨uncomposed, tasks, traffic⟩
    exact ⟨⟨fun granted => uncomposed granted.1.1, tasks⟩, by rw [traffic]⟩

end Services

section Tasks
variable {env : Kube} {w : World}

/- The tracked operations, by their handlers. -/
def Op.handler (env : Kube) : Op → Option (M Response)
  | .create kind payload => some (Endpoints.create env kind payload)
  | .delete kind name => some (Endpoints.delete env kind name)
  | .scale name payload => some (Endpoints.scaleDeployment env name payload)
  | _ => none

/- What an operation changes if the server accepts it, whatever its task claims. -/
def Op.Effect (env : Kube) (w : World) : Op → List (Change Address) → Prop
  | .create kind payload => Adds (.adds (addressOf env kind payload)) (∃ reply, Created env w kind payload reply) w
  | .delete kind name => Adds (.removes (env.address kind name)) ((Op.delete kind name).Granted env w) w
  | _ => fun all => all = changes w.traffic

/-- With a database that answers, a tracked handler returns exactly if what it does is accepted and
every answer fits its summary; its task ends as succeeded if it does, and as failed if not; and the
object is created, or deleted, exactly if this is accepted, even where the task has failed. -/
theorem kubernetes_tasks_iff (up : ∀ n, env.databaseUp n = true) {op : Op} {m : M Response}
    (tracked : op.handler env = some m) : Tells (op.Granted env w) (op.Effect env w) m w := by
  cases op with
  | create kind payload =>
    cases tracked
    cases kind with
    | pod => exact trackedCreate_tells up (by decide) (createOf_tells .pod payload (fun _ => Iff.rfl))
    | deployment => exact trackedCreate_tells up (by decide) (createOf_tells .deployment payload (fun _ => Iff.rfl))
    | service => exact trackedCreate_tells up (by decide) (createOf_tells .service payload (fun _ => Iff.rfl))
  | delete kind name =>
    cases tracked
    cases kind with
    | pod => exact trackedAction_tells up (deleteOf_tells .pod name)
    | deployment => exact trackedAction_tells up (deleteOf_tells .deployment name)
    | service => exact trackedAction_tells up (deleteOf_tells .service name)
  | scale name payload =>
    cases tracked
    exact trackedCreate_tells up (by decide) (scaleDeployment_tells name payload Iff.rfl (fun _ => Iff.rfl))
  | list kind => contradiction
  | get kind name => contradiction
  | clusterInfo => contradiction
  | deployWorkload name image replicas port => contradiction
  | removeWorkload name => contradiction

end Tasks

def nameless : Val := .dict [("metadata", .dict [("name", .none), ("namespace", .str "prod")])]

/- A server that accepts everything, and answers with an object that has no name. -/
def taciturn : Kube := { agreeable with sdk := fun _ _ => { result := .ok ⟨nameless, none⟩ } }

/-- The pod is created, and its task says that this has failed. -/
theorem unanswered_pod_stands : ∃ exc t, Endpoints.create taciturn .pod webPod .initial = .error exc t ∧
    (t.tasks[0]?).map OperationTask.state = some .failed ∧ addressOf taciturn .pod webPod ∈ objects t := by
  have tells : Tells _ _ (Endpoints.create taciturn .pod webPod) .initial :=
    @kubernetes_tasks_iff taciturn .initial (fun _ => rfl) (.create .pod webPod) _ rfl
  have made : Created taciturn .initial .pod webPod ⟨nameless, none⟩ := ⟨rfl, ⟨rfl, rfl⟩, rfl⟩
  cases ended : Endpoints.create taciturn .pod webPod .initial with
  | ok response t =>
    obtain ⟨⟨⟨reply, o, ⟨_, _, answered⟩, fits⟩, _⟩, _⟩ := wp_of_ok tells ended
    cases answered
    have misfit : serializePod taciturn nameless = .error (.validationError "PodSummary" ["name"]) := rfl
    exact absurd (misfit.symm.trans fits) (by simp)
  | error exc t =>
    obtain ⟨⟨_, failed⟩, ⟨_, changed⟩ | ⟨unmade, _⟩⟩ := wp_of_error tells ended
    · refine ⟨exc, t, rfl, failed, ?_⟩
      rw [objects, changed]
      exact List.mem_cons_self
    · exact absurd ⟨_, made⟩ unmade

end VMachine.Kubernetes
