import VMachine.OpenStack.Keypairs

/-! `RouterManager`, which calls its service by names that the service does not have and reads an
attribute that its answers do not declare. -/
namespace VMachine.OpenStack.Managers
open Py Effects Traces

section Manager
variable (env : Env)

/- The loop over the subnets. The method is looked up before its arguments are evaluated. -/
def addInterfaces (router : Any) : List String → M Unit
  | [] => return
  | subnetId :: subnetIds => do
    let _ ← (routerService env).invoke "add_interface" (do
      let routerId ← router.getattr "router_id"
      return [.val routerId, .val (.str subnetId)])
    addInterfaces router subnetIds

/- The rest of the provisioning, when the service has answered. -/
def onwards (subnetIds : List String) (router : Any) : M Val := do
  addInterfaces env router subnetIds
  let routerId ← router.getattr "router_id"
  return .dict [("router_id", routerId), ("subnet_count", .int subnetIds.length)]

def provisionRouterWithInterfaces (name : String) (subnetIds : List String) : M Val := do
  let request ← build routerCreateRequestSchema [("name", .str name)]
  let router ← (routerService env).invoke "create_router" (pure [request])
  onwards env subnetIds router

def removeInterfaces (routerId : String) : List String → M Unit
  | [] => return
  | subnetId :: subnetIds => do
    tryCatch (do
        let _ ← (routerService env).invoke "remove_interface" (pure [.val (.str routerId), .val (.str subnetId)])
        return)
      (fun _ => return)
    removeInterfaces routerId subnetIds

def teardownRouter (routerId : String) (subnetIds : Option (List String)) : M Unit := do
  removeInterfaces env routerId (subnetIds.getD [])
  let _ ← (routerService env).invoke "delete_router" (pure [.val (.str routerId)])
  return

end Manager

/- The look-up of the name, and what follows if nobody has it. -/
def lookupRequest (name : String) : SdkCall := ⟨"network", "find_router", [.str name], ignoreMissing⟩

def routerRequest (name : String) : SdkCall :=
  ⟨"network", "create_router", [], [("name", .str name), ("admin_state_up", .bool true)]⟩

def deletionRequest (routerId : String) : SdkCall := ⟨"network", "delete_router", [.str routerId], ignoreMissing⟩

section Facts
variable {env : Env} {name : String} {subnetIds : List String} {w : World}

theorem build_emits (schema : Schema) (kwargs : List (String × Val)) : Emits World.log [] (build schema kwargs) :=
  emits_after (ofExcept_emits _) (fun _ => emits_pure _)

theorem checkFree_emits (operation kind code : String) (name : Val) :
    Emits World.log [⟨"network", operation, [name], ignoreMissing⟩] (checkFree env operation kind code name) :=
  emits_before (call_emits _ _ _ _) (fun _ => emits_ite _ (emits_throw [] _) (emits_pure _))

theorem createRouter_emits {payload : Obj} (named : payload.getattr "name" = some (.str name)) :
    Emits World.log [lookupRequest name, routerRequest name] (createRouter env (.model payload)) := by
  unfold createRouter
  simp only [Any.getattr, named, pure_bind]
  refine emits_cons (checkFree_emits _ _ _ _) (fun _ => emits_before (call_emits _ _ _ _) (fun router => ?_))
  exact emits_after (ofExcept_emits _) (fun _ => build_emits _ _)

/-- The service has no such method, and its summaries no such attribute. -/
theorem onwards_raises {router : Any} (summary : ∃ o, router = .model o ∧ o.Valid routerSummarySchema) :
    Raises (onwards env subnetIds router) := by
  obtain ⟨o, rfl, valid⟩ := summary
  cases subnetIds with
  | nil =>
    have undeclared : o.getattr "router_id" = none := getattr_undeclared valid (by decide)
    exact raises_then (fun _ => raises_bind (getattr_raises undeclared) _)
  | cons subnetId subnetIds => exact raises_bind (raises_bind (invoke_missing _ rfl) _) _

theorem addInterfaces_emits (router : Any) (subnetIds : List String) :
    Emits World.log [] (addInterfaces env router subnetIds) := by
  cases subnetIds with
  | nil => exact emits_pure _
  | cons subnetId subnetIds =>
    exact emits_stop (Keypairs.fault_emits _) (invoke_missing _ rfl)

/- `RouterCreateRequest(name=name)`. -/
def routerCreate (name : String) : Obj :=
  ⟨"RouterCreateRequest", [("name", .str name), ("admin_state_up", .bool true), ("external_network_id", .none)]⟩

theorem routerCreate_eq (name : String) : validate routerCreateRequestSchema [("name", .str name)] =
    if 1 ≤ name.length ∧ name.length ≤ 255 then .ok (routerCreate name)
    else .error (.validationError "RouterCreateRequest" ["name"]) := by
  by_cases bounds : 1 ≤ name.length ∧ name.length ≤ 255
  · have passes : (decide (1 ≤ name.length) && decide (name.length ≤ 255)) = true := by simpa using bounds
    rw [if_pos bounds]
    simp [validate, Schema.construct, routerCreateRequestSchema, resourceName, defaulted, optionalStr, Field.value,
      Field.accepts, Ty.accepts, passes, List.lookup_cons, routerCreate]
  · have fails : (decide (1 ≤ name.length) && decide (name.length ≤ 255)) = false := by
      rw [Bool.eq_false_iff]
      simpa using bounds
    rw [if_neg bounds]
    simp [validate, Schema.construct, routerCreateRequestSchema, resourceName, defaulted, optionalStr, Field.value,
      Field.accepts, Ty.accepts, fails, List.lookup_cons]

/-- The loop over the subnets raises nothing, and leaves no more behind than what it has swallowed. -/
theorem removeInterfaces_spec (routerId : String) (subnetIds : List String) :
    wp (removeInterfaces env routerId subnetIds) w (fun _ t => t = { w with faults := t.faults }) (fun _ _ => False) := by
  induction subnetIds generalizing w with
  | nil => rfl
  | cons subnetId subnetIds ih =>
    have missing : (routerService env).invoke "remove_interface" (pure [.val (.str routerId), .val (.str subnetId)]) =
        fault (.attributeError "RouterService" "remove_interface") := rfl
    rw [removeInterfaces, missing, wp_bind, wp_tryCatch, wp_bind]
    simp only [fault, wp_bind, wp_modify, wp_throw, wp_pure]
    refine wp_mono ih ?_ (fun _ _ never => never)
    rintro _ t same
    rw [same]

/- The look-up of the name finds a router. -/
def Taken (env : Env) (w : World) (name : String) : Prop :=
  ∃ reply, (answer env w (lookupRequest name)).result = .ok reply ∧ reply.value.truthy = true

/-- With every call answered, the router is requested exactly if nobody has the name. -/
theorem createRouter_asks (succeeds : AllSucceed env) {payload : Obj} (named : payload.getattr "name" = some (.str name)) :
    wp (createRouter env (.model payload)) w
      (fun _ t => ¬ Taken env w name ∧ t.log = w.log ++ [lookupRequest name, routerRequest name])
      (fun _ t => (Taken env w name ∧ t.log = w.log ++ [lookupRequest name]) ∨
        (¬ Taken env w name ∧ t.log = w.log ++ [lookupRequest name, routerRequest name])) := by
  unfold createRouter
  simp only [Any.getattr, named, pure_bind]
  rw [wp_bind, checkFree, wp_bind]
  refine wp_mono (wp_and (call_succeeds succeeds _ _ _ _) (call_emits _ _ _ _ w)) ?_ (fun _ _ never => never.1.elim)
  rintro reply t ⟨⟨result, _⟩, looked⟩
  have only {other : Reply} (same : (answer env w (lookupRequest name)).result = .ok other) : other = reply := by
    have given : (answer env w (lookupRequest name)).result = .ok reply := result
    rw [given] at same
    exact (Except.ok.inj same).symm
  split
  · rename_i truthy
    exact .inl ⟨⟨reply, result, truthy⟩, looked⟩
  · rename_i falsy
    have free : ¬ Taken env w name := by
      rintro ⟨other, same, truthy⟩
      exact falsy (only same ▸ truthy)
    rw [wp_pure, wp_bind]
    refine wp_mono (wp_and (call_succeeds succeeds _ _ _ _) (call_emits _ _ _ _ t)) ?_ (fun _ _ never => never.1.elim)
    rintro router u ⟨_, asked⟩
    have whole : u.log = w.log ++ [lookupRequest name, routerRequest name] := by
      rw [asked, looked, List.append_assoc]
      rfl
    have silent : Emits World.log [] (routerSummary router.value) := emits_after (ofExcept_emits _) (fun _ => build_emits _ _)
    refine wp_mono (silent u) ?_ ?_
    · intro _ v same
      exact ⟨free, by rw [same, List.append_nil, whole]⟩
    · rintro _ v ⟨done, part, same⟩
      rw [List.prefix_nil.mp part, List.append_nil] at same
      exact .inr ⟨free, same.trans whole⟩

theorem onwards_emits (router : Any) (subnetIds : List String) : Emits World.log [] (onwards env subnetIds router) := by
  refine emits_after (addInterfaces_emits router subnetIds) (fun _ => emits_before ?_ (fun _ => emits_pure _))
  unfold Any.getattr
  split
  · exact Keypairs.fault_emits _
  · split
    · exact emits_pure _
    · exact Keypairs.fault_emits _

theorem provision_eq (name : String) (subnetIds : List String) : provisionRouterWithInterfaces env name subnetIds =
    if 1 ≤ name.length ∧ name.length ≤ 255 then createRouter env (.model (routerCreate name)) >>= onwards env subnetIds
    else throw (.validationError "RouterCreateRequest" ["name"]) := by
  unfold provisionRouterWithInterfaces
  rw [build, routerCreate_eq]
  split
  · rfl
  · rfl

/-- Whatever OpenStack answers, provisioning a router raises, with nothing requested beyond the router
itself, which is requested, if every call is answered, exactly when the name is valid and free. -/
theorem provisioning_raises (name : String) (subnetIds : List String) :
    ∃ exc t asked, provisionRouterWithInterfaces env name subnetIds w = .error exc t ∧ t.log = w.log ++ asked ∧
      asked <+: [lookupRequest name, routerRequest name] ∧
      (AllSucceed env → (asked = [lookupRequest name, routerRequest name] ↔
        (1 ≤ name.length ∧ name.length ≤ 255) ∧ ¬ Taken env w name)) := by
  rw [provision_eq]
  by_cases bounds : 1 ≤ name.length ∧ name.length ≤ 255
  · rw [if_pos bounds]
    have raises : Raises (createRouter env (.model (routerCreate name)) >>= onwards env subnetIds) :=
      raises_after createRouter_returns (fun _ summary => onwards_raises summary)
    have emits : Emits World.log [lookupRequest name, routerRequest name]
        (createRouter env (.model (routerCreate name)) >>= onwards env subnetIds) :=
      emits_before (createRouter_emits rfl) (fun router => onwards_emits router subnetIds)
    have asks (succeeds : AllSucceed env) : wp (createRouter env (.model (routerCreate name)) >>= onwards env subnetIds) w
        (fun _ _ => True) (fun _ t => (Taken env w name ∧ t.log = w.log ++ [lookupRequest name]) ∨
          (¬ Taken env w name ∧ t.log = w.log ++ [lookupRequest name, routerRequest name])) := by
      rw [wp_bind]
      refine wp_mono (createRouter_asks succeeds rfl) ?_ (fun _ _ told => told)
      rintro router t ⟨free, asked⟩
      refine wp_mono (onwards_emits router subnetIds t) (fun _ _ _ => trivial) ?_
      rintro _ u ⟨done, part, same⟩
      rw [List.prefix_nil.mp part, List.append_nil] at same
      exact .inr ⟨free, same.trans asked⟩
    cases run : (createRouter env (.model (routerCreate name)) >>= onwards env subnetIds) w with
    | ok v t => exact absurd run raises.not_ok
    | error exc t =>
      obtain ⟨asked, part, log⟩ := emits.of_error run
      refine ⟨exc, t, asked, rfl, log, part, fun succeeds => ?_⟩
      obtain ⟨taken, only⟩ | ⟨free, both⟩ := wp_of_error (asks succeeds) run
      · rw [List.append_cancel_left (log.symm.trans only)]
        simp [taken]
      · rw [List.append_cancel_left (log.symm.trans both)]
        simp [bounds, free]
  · rw [if_neg bounds]
    refine ⟨_, w, [], rfl, (List.append_nil _).symm, List.nil_prefix, fun _ => ?_⟩
    simp [bounds]

theorem teardown_emits (routerId : String) (subnetIds : Option (List String)) :
    Emits World.log [deletionRequest routerId] (teardownRouter env routerId subnetIds) := by
  have deletes : Emits World.log [deletionRequest routerId]
      ((routerService env).invoke "delete_router" (pure [.val (.str routerId)])) := by
    change Emits World.log [deletionRequest routerId] (deleteRouter env (.val (.str routerId)))
    refine emits_before (emits_before (call_emits _ _ _ _) (fun deleted => ?_)) (fun _ => emits_pure _)
    split
    · exact emits_throw [] _
    · exact emits_pure _
  refine emits_after (fun w => ?_) (fun _ => emits_before deletes (fun _ => emits_pure _))
  refine wp_mono (removeInterfaces_spec routerId _) ?_ (fun _ _ never => never.elim)
  rintro _ t same
  rw [same]
  exact (List.append_nil _).symm

/-- Whatever OpenStack answers, tearing a router down takes no subnet off it: the one request is the
deletion, and if it is answered the call returns exactly when it is not denied. -/
theorem teardown_detaches_nothing (routerId : String) (subnetIds : Option (List String)) :
    Emits World.log [deletionRequest routerId] (teardownRouter env routerId subnetIds) ∧
    (AllSucceed env → ((∃ t, teardownRouter env routerId subnetIds w = .ok () t) ↔
      ¬ Denies (answer env w (deletionRequest routerId)))) := by
  refine ⟨teardown_emits routerId subnetIds, fun succeeds => ?_⟩
  have spec : wp (teardownRouter env routerId subnetIds) w (fun _ _ => ¬ Denies (answer env w (deletionRequest routerId)))
      (fun _ _ => Denies (answer env w (deletionRequest routerId))) := by
    rw [teardownRouter, wp_bind]
    refine wp_mono (removeInterfaces_spec routerId _) ?_ (fun _ _ never => never.elim)
    rintro _ t same
    have unchanged : answer env t (deletionRequest routerId) = answer env w (deletionRequest routerId) := by rw [same]; rfl
    rw [← unchanged, wp_bind]
    refine wp_mono (deleteOr404_deletes succeeds "network" "delete_router" "Router not found" "router_not_found"
      (.val (.str routerId))) ?_ (fun _ _ denied => denied)
    rintro _ u ⟨granted, _⟩
    exact granted
  cases run : teardownRouter env routerId subnetIds w with
  | ok v t => exact iff_of_true ⟨t, rfl⟩ (wp_of_ok spec run)
  | error exc t =>
    refine iff_of_false ?_ (not_not.mpr (wp_of_error spec run))
    rintro ⟨u, same⟩
    contradiction

/-- Whatever OpenStack answers, the manager never asks for an interface to be added or removed. To provision
a router always raises, though the router itself is requested, if every call is answered, exactly when
its name is valid and free; to tear one down deletes it and returns exactly if that is not denied. -/
theorem interfaces_never_requested (name routerId : String) (subnetIds : List String) (attached : Option (List String)) :
    (∃ exc t asked, provisionRouterWithInterfaces env name subnetIds w = .error exc t ∧ t.log = w.log ++ asked ∧
      asked <+: [lookupRequest name, routerRequest name] ∧
      (AllSucceed env → (asked = [lookupRequest name, routerRequest name] ↔
        (1 ≤ name.length ∧ name.length ≤ 255) ∧ ¬ Taken env w name))) ∧
    Emits World.log [deletionRequest routerId] (teardownRouter env routerId attached) ∧
    (AllSucceed env → ((∃ t, teardownRouter env routerId attached w = .ok () t) ↔
      ¬ Denies (answer env w (deletionRequest routerId)))) :=
  ⟨provisioning_raises name subnetIds, teardown_detaches_nothing routerId attached⟩

end Facts

/- A cloud that grants every request, and in which no router has a name yet. -/
def newCloud : Env := { Listings.obligingCloud with
  sdk := fun _ request => { result := .ok ⟨if request.operation = "find_router" then .none else
    .dict [("id", .str "r-1"), ("name", .str "edge")], none⟩ } }

theorem newCloud_succeeds : AllSucceed newCloud where
  ready := rfl
  connects _ := rfl
  answers _ _ := ⟨_, rfl⟩
  writes _ := rfl

theorem edge_router_left : ∃ exc t, provisionRouterWithInterfaces newCloud "edge" ["sub-1"] .initial = .error exc t ∧
    t.log = [lookupRequest "edge", routerRequest "edge"] := by
  obtain ⟨⟨exc, t, asked, run, log, _, whole⟩, _⟩ := @interfaces_never_requested newCloud .initial "edge" "r-1" ["sub-1"] none
  have free : ¬ Taken newCloud .initial "edge" := by
    rintro ⟨reply, same, truthy⟩
    cases same
    contradiction
  exact ⟨exc, t, run, log.trans ((whole newCloud_succeeds).mpr ⟨by decide, free⟩)⟩

end VMachine.OpenStack.Managers
