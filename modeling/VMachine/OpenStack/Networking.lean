import VMachine.OpenStack.Polling
import VMachine.OpenStack.Endpoints

/-! `NetworkService.create_network` in the middle of things: which requests it sends for a
payload, and what it leaves in OpenStack and in the cache when one of them fails. The
network and its subnet are two requests, and nothing takes the first one back. -/
namespace VMachine.OpenStack
open Py Effects

section Requests

def findRequest (name : Val) : SdkCall := ⟨"network", "find_network", [name], ignoreMissing⟩

def createRequest (name : Val) : SdkCall :=
  ⟨"network", "create_network", [], [("name", name), ("admin_state_up", .bool true)]⟩

def subnetRequest (name id cidr : Val) : SdkCall :=
  ⟨"network", "create_subnet", [],
    [("name", .str (name.text ++ "-subnet")), ("network_id", id), ("cidr", cidr), ("ip_version", .int 4),
      ("enable_dhcp", .bool true)]⟩

variable (env : Env)

/- What create_network does once the name is known to be free. -/
def makeNetwork (name cidr : Val) : M Any := do
  let network ← call env "network" "create_network" [] [("name", name), ("admin_state_up", .bool true)]
  let id ← ofExcept (readAttr network.value "id")
  let _ ← call env "network" "create_subnet" []
    [("name", .str (name.text ++ "-subnet")), ("network_id", id), ("cidr", cidr), ("ip_version", .int 4),
      ("enable_dhcp", .bool true)]
  cacheInvalidate env "networks"
  networkSummary network.value

theorem createNetwork_eq {p : Obj} (valid : p.Valid networkCreateRequestSchema) :
    createNetwork env (.model p) = (do
      checkFree env "find_network" "Network" "network_already_exists" (p.field "name")
      makeNetwork env (p.field "name") (p.field "cidr")) := by
  have name : p.getattr "name" = some (p.field "name") := getattr_field valid (by decide)
  have cidr : p.getattr "cidr" = some (p.field "cidr") := getattr_field valid (by decide)
  simp only [createNetwork, Any.getattr, name, cidr, pure_bind, makeNetwork]

/- The SDK finds no network of that name. -/
def Free (name : Val) (w : World) : Prop :=
  connects env w = true ∧
    ∃ existing, (env.sdk w.online.tick (findRequest name)).result = .ok existing ∧ existing.value.truthy = false

/- The world once the name has been looked up, once the network has been requested, and once
its subnet has. -/
def World.checked (name : Val) (w : World) : World := w.online.called env (findRequest name)

def World.requested (name : Val) (w : World) : World := (w.checked env name).called env (createRequest name)

def World.subnetted (name id cidr : Val) (w : World) : World :=
  (w.requested env name).called env (subnetRequest name id cidr)

/- What the SDK answers to the request for the network. -/
def networkReply (name : Val) (w : World) : Except Exc Reply :=
  (env.sdk (w.checked env name).tick (createRequest name)).result

/- What it answers to the request for the subnet. -/
def subnetReply (name id cidr : Val) (w : World) : Except Exc Reply :=
  (env.sdk (w.requested env name).tick (subnetRequest name id cidr)).result

/- The id of the network, if there is an answer and it has one. -/
def networkId (name : Val) (w : World) : Option Val :=
  (networkReply env name w).toOption.bind (fun network => network.value.get? "id")

end Requests

section Steps
variable {env : Env} {w : World} {name cidr : Val} {Q : Any → World → Prop} {E : Exc → World → Prop}

/- Nothing is requested, and the cache is left alone. -/
def idle : Frame World where
  rel s t := t.traffic = s.traffic ∧ t.log = s.log ∧ t.cache = s.cache
  refl _ := ⟨rfl, rfl, rfl⟩
  trans first second :=
    ⟨second.1.trans first.1, second.2.1.trans first.2.1, second.2.2.trans first.2.2⟩

theorem idle_silent (env : Env) : Silent env (fun _ => False) idle where
  asked _ := idle.refl _
  passed _ _ := idle.refl _
  connected _ := idle.refl _
  issued _ _ _ never := never.elim
  gauged _ _ := idle.refl _

theorem create_unconflicted : wp (create env) w (fun _ _ => True) (fun exc _ => exc.statusCode ≠ some 409) := by
  rw [create, wp_bind, wp_get, wp_ite]
  split
  · trivial
  · rw [wp_ite]
    split
    · rw [ask, wp_bind]
      simp only [wp_bind, wp_get, wp_set, wp_pure]
      cases env.connect w.tick with
      | none => trivial
      | some exc => simp [Exc.statusCode]
    · simp [Exc.statusCode]

/-- Without a connection no request leaves the process, and what is raised is no conflict. -/
theorem call_offline (offline : connects env w = false) (service operation : String) (args : List Val)
    (kwargs : List (String × Val)) :
    wp (call env service operation args kwargs) w (fun _ _ => False)
      (fun exc t => idle.rel w t ∧ exc.statusCode ≠ some 409) := by
  rw [call, wp_bind]
  refine wp_mono (wp_and create_spec (wp_and (create_frames (idle_silent env) w) create_unconflicted)) ?_ ?_
  · rintro _ _ ⟨⟨online, _⟩, _⟩
    exact absurd (online.symm.trans offline) (by decide)
  · rintro exc t ⟨_, same, unconflicted⟩
    exact ⟨same, unconflicted⟩

end Steps

/- The 409 of a name that is taken. -/
def alreadyExists (name : Val) : Exc :=
  .appException ("Network" ++ " '" ++ name.text ++ "' already exists") 409 "network_already_exists"

/- What of a network goes into its summary. -/
def networkData (network : Val) : List (String × Val) :=
  serializeResource network ["id", "name", "status", "shared", "admin_state_up"]

def World.invalidated (env : Env) (resource : String) (w : World) : World :=
  { w with tick := w.tick + 1, cache := Cache.cacheInvalidate (env.redisUp w.tick) resource w.cache }

/- How create_network can raise before it has requested the network. -/
inductive Stopped (env : Env) (name : Val) (w : World) : Exc → World → Prop where
  | offline {exc : Exc} {t : World} (same : idle.rel w t) (unconflicted : exc.statusCode ≠ some 409) :
      Stopped env name w exc t
  | unanswered {message : String} :
      Stopped env name w (.openStackIntegrationException message) (w.checked env name)
  | taken {existing : Reply} (found : (env.sdk w.online.tick (findRequest name)).result = .ok existing)
      (there : existing.value.truthy = true) : Stopped env name w (alreadyExists name) (w.checked env name)

/- How it can end afterwards. -/
inductive Made (env : Env) (name cidr : Val) (w : World) : EStateM.Result Exc World Any → Prop where
  | refused {exc : Exc} {message : String} (lost : networkReply env name w = .error exc) :
      Made env name cidr w (.error (.openStackIntegrationException message) (w.requested env name))
  | unidentified {network : Reply} {owner : String} (answered : networkReply env name w = .ok network)
      (bare : network.value.get? "id" = none) :
      Made env name cidr w (.error (.attributeError owner "id") (w.requested env name))
  | subnetless {network : Reply} {id : Val} {exc : Exc} {message : String}
      (answered : networkReply env name w = .ok network) (identified : network.value.get? "id" = some id)
      (lost : subnetReply env name id cidr w = .error exc) :
      Made env name cidr w (.error (.openStackIntegrationException message) (w.subnetted env name id cidr))
  | unreadable {network subnet : Reply} {id : Val} {fields : List String}
      (answered : networkReply env name w = .ok network) (identified : network.value.get? "id" = some id)
      (made : subnetReply env name id cidr w = .ok subnet)
      (bad : networkSummarySchema.construct (networkData network.value) = .error fields) :
      Made env name cidr w (.error (.validationError "NetworkSummary" fields)
        ((w.subnetted env name id cidr).invalidated env "networks"))
  | complete {network subnet : Reply} {id : Val} {summary : Obj}
      (answered : networkReply env name w = .ok network) (identified : network.value.get? "id" = some id)
      (made : subnetReply env name id cidr w = .ok subnet)
      (good : networkSummarySchema.construct (networkData network.value) = .ok summary) :
      Made env name cidr w (.ok (.model summary) ((w.subnetted env name id cidr).invalidated env "networks"))

section Ends
variable {env : Env} {w : World} {name cidr : Val}

/- The program ends in one of the ways that the relation allows. -/
def Ending {α : Type} (R : EStateM.Result Exc World α → Prop) (m : M α) (w : World) : Prop :=
  wp m w (fun a t => R (.ok a t)) (fun exc t => R (.error exc t))

theorem Ending.run {α : Type} {R : EStateM.Result Exc World α → Prop} {m : M α} (ending : Ending R m w) :
    R (m w) := by
  cases run : m w with
  | ok a t => exact wp_of_ok ending run
  | error exc t => exact wp_of_error ending run

theorem summary_ends {network subnet : Reply} {id : Val} (answered : networkReply env name w = .ok network)
    (identified : network.value.get? "id" = some id) (made : subnetReply env name id cidr w = .ok subnet) :
    Ending (Made env name cidr w) (do cacheInvalidate env "networks"; networkSummary network.value)
      (w.subnetted env name id cidr) := by
  simp only [Ending, cacheInvalidate, ask, wp_bind, wp_get, wp_set, wp_pure, wp_modify, networkSummary, build,
    validate]
  cases summary : networkSummarySchema.construct (networkData network.value) with
  | ok o =>
    rw [networkData] at summary
    rw [summary]
    exact .complete answered identified made summary
  | error fields =>
    rw [networkData] at summary
    rw [summary]
    exact .unreadable answered identified made summary

/-- A request over a connection that is there, as one step. -/
theorem wp_call_connected {Q : Reply → World → Prop} {E : Exc → World → Prop} (connected : w.connected = true)
    (request : SdkCall) :
    wp (call env request.service request.operation request.args request.kwargs) w Q E ↔
      match (env.sdk w.tick request).result with
      | .ok reply => Q reply (w.called env request)
      | .error exc =>
        E (.openStackIntegrationException (request.service ++ "." ++ request.operation ++ " failed: " ++ exc.message))
          (w.called env request) := by
  have step := @wp_call_online env w (connects_of_connected connected) request.service request.operation request.args
    request.kwargs Q E
  rw [online_of_connected connected] at step
  exact step

theorem makeNetwork_ends : Ending (Made env name cidr w) (makeNetwork env name cidr) (w.checked env name) := by
  rw [Ending, makeNetwork, wp_bind]
  apply (wp_call_connected rfl (createRequest name)).mpr
  split
  · rename_i network answered
    cases identity : network.value.get? "id" with
    | none =>
      simp only [readAttr, identity, wp_bind, wp_ofExcept_error]
      exact .unidentified answered identity
    | some id =>
      simp only [readAttr, identity, wp_bind, wp_ofExcept_ok]
      apply (wp_call_connected rfl (subnetRequest name id cidr)).mpr
      split
      · rename_i subnet made
        exact summary_ends answered identity made
      · rename_i exc lost
        exact .subnetless answered identity lost
  · rename_i exc lost
    exact .refused lost

variable {p : Obj} (valid : p.Valid networkCreateRequestSchema)
include valid

/-- With a free name, create_network goes on to request the network. -/
theorem createNetwork_free (free : Free env (p.field "name") w) :
    Made env (p.field "name") (p.field "cidr") w (createNetwork env (.model p) w) := by
  obtain ⟨online, existing, found, absent⟩ := free
  apply Ending.run
  rw [createNetwork_eq env valid, Ending, wp_bind, checkFree, wp_bind, wp_call online found, absent,
    if_neg Bool.false_ne_true]
  exact makeNetwork_ends

theorem createNetwork_stopped (blocked : ¬ Free env (p.field "name") w) :
    wp (createNetwork env (.model p)) w (fun _ _ => False) (Stopped env (p.field "name") w) := by
  rw [createNetwork_eq env valid, wp_bind, checkFree, wp_bind]
  cases online : connects env w with
  | false =>
    refine wp_mono (call_offline online _ _ _ _) (fun _ _ never => never.elim) ?_
    rintro exc t ⟨same, unconflicted⟩
    exact .offline same unconflicted
  | true =>
    rw [wp_call_online online]
    split
    · rename_i existing found
      have there : existing.value.truthy = true := by
        by_contra absent
        exact blocked ⟨online, existing, found, by simpa using absent⟩
      rw [if_pos there]
      exact .taken found there
    · exact .unanswered

end Ends

/- What OpenStack holds after a history of requests: the names of its networks. Looking one
up, listing them and adding a subnet leave them as they are. -/
structure Neutron where
  held : List Exchange → List String
  reads : ∀ history x, x.request.operation ∈ ["find_network", "networks", "create_subnet"] →
    held (history ++ [x]) = held history

/- `NetworkService.list_networks`, the one writer of the cached list. -/
def listNetworks (env : Env) : M Listing := do
  match ← cacheGet env "networks" with
  | some cached => return cached
  | none =>
    let before ← get
    let nets ← call env "network" "networks" [] [("limit", .int env.listLimit)]
    let items ← ofExcept (comprehend (fun net => validate networkSummarySchema (networkData net)) nets)
    let result : Listing := ⟨items.map .model, before.log.length⟩
    cacheSet env "networks" result
    return result

namespace Neutron
variable (neutron : Neutron)

def networks (w : World) : List String := neutron.held w.traffic

/- The cached list is of the networks that OpenStack holds now. -/
def ListCurrent (w : World) : Prop :=
  ∀ entry, w.cache.peek "networks" = some entry →
    entry.value.fetchedAt ≤ w.traffic.length ∧
      neutron.held (w.traffic.take entry.value.fetchedAt) = neutron.networks w

/- find_network finds nothing but what OpenStack holds. -/
def Finds (env : Env) (name : Val) (w : World) : Prop :=
  ∀ existing, (env.sdk w.online.tick (findRequest name)).result = .ok existing → existing.value.truthy = true →
    name.text ∈ neutron.networks w

/- A failed attempt that has left nothing behind: the networks are those of before, the
cached list is as current as it was, and the same request is not turned down for a network
that the attempt has made. -/
structure Undone (env : Env) (payload : Obj) (w t : World) : Prop where
  networks : neutron.networks t = neutron.networks w
  list : neutron.ListCurrent w → neutron.ListCurrent t
  again : neutron.Finds env (payload.field "name") t →
    ∀ u, createNetwork env (.model payload) t = .error (alreadyExists (payload.field "name")) u →
      (payload.field "name").text ∈ neutron.networks w

def AllOrNothing (env : Env) (payload : Obj) (w : World) : Prop :=
  ∀ exc t, createNetwork env (.model payload) w = .error exc t → neutron.Undone env payload w t

end Neutron

/- Both requests are answered, and the answers are what a summary is built from. -/
def Completes (env : Env) (name cidr : Val) (w : World) : Prop :=
  ∃ network id subnet summary, networkReply env name w = .ok network ∧ network.value.get? "id" = some id ∧
    subnetReply env name id cidr w = .ok subnet ∧
    networkSummarySchema.construct (networkData network.value) = .ok summary

/- A free name whose network is made gets its subnet and its summary too. -/
def Spared (neutron : Neutron) (env : Env) (payload : Obj) (w : World) : Prop :=
  Free env (payload.field "name") w →
    neutron.networks (w.requested env (payload.field "name")) = neutron.networks w ∨
      Completes env (payload.field "name") (payload.field "cidr") w

section Lists
variable {neutron : Neutron} {env : Env} {w t : World} {name id cidr : Val}

/- Requests are added to those of before, and nothing is put into the cache. -/
def Follows (w t : World) : Prop :=
  w.traffic <+: t.traffic ∧
    (t.cache.peek "networks" = w.cache.peek "networks" ∨ t.cache.peek "networks" = none)

theorem checked_follows : Follows w (w.checked env name) := ⟨List.prefix_append _ _, .inl rfl⟩

theorem requested_follows : Follows w (w.requested env name) :=
  ⟨checked_follows.1.trans (List.prefix_append _ _), .inl rfl⟩

theorem subnetted_follows : Follows w (w.subnetted env name id cidr) :=
  ⟨requested_follows.1.trans (List.prefix_append _ _), .inl rfl⟩

theorem createNetwork_follows {p : Obj} (valid : p.Valid networkCreateRequestSchema) :
    Follows w (endOf (createNetwork env (.model p) w)) := by
  by_cases free : Free env (p.field "name") w
  · have ends := createNetwork_free valid free
    generalize createNetwork env (.model p) w = result at ends
    cases ends with
    | refused | unidentified => exact requested_follows
    | subnetless => exact subnetted_follows
    | unreadable | complete => exact ⟨subnetted_follows.1, Cache.cacheInvalidate_peek _ _ _ _⟩
  · have stops := createNetwork_stopped valid free
    cases run : createNetwork env (.model p) w with
    | ok a t => exact (wp_of_ok stops run).elim
    | error exc t =>
      cases wp_of_error stops run with
      | offline same unconflicted => exact ⟨by rw [endOf, same.1], .inl (by rw [endOf, same.2.2])⟩
      | unanswered | taken => exact checked_follows

/-- While the networks stay the same, so does what the list is worth. -/
theorem current_of_follows (follows : Follows w t) (same : neutron.networks t = neutron.networks w)
    (current : neutron.ListCurrent w) : neutron.ListCurrent t := by
  intro entry there
  obtain ⟨within, fetched⟩ := current entry (peek_kept follows.2 there)
  obtain ⟨sent, traffic⟩ := follows.1
  refine ⟨by rw [← traffic, List.length_append]; omega, ?_⟩
  rw [← traffic, List.take_append_of_le_length within, fetched, same]

theorem networks_checked : neutron.networks (w.checked env name) = neutron.networks w :=
  neutron.reads w.traffic _ (by simp [findRequest])

theorem networks_subnetted :
    neutron.networks (w.subnetted env name id cidr) = neutron.networks (w.requested env name) :=
  neutron.reads _ _ (by simp [subnetRequest])

/-- Whoever is told that the name is taken has been told so by find_network. -/
theorem alreadyExists_found {p : Obj} {u : World} (valid : p.Valid networkCreateRequestSchema)
    (rejected : createNetwork env (.model p) w = .error (alreadyExists (p.field "name")) u) :
    ∃ existing, (env.sdk w.online.tick (findRequest (p.field "name"))).result = .ok existing ∧
      existing.value.truthy = true := by
  generalize conflict : alreadyExists (p.field "name") = exc at rejected
  by_cases free : Free env (p.field "name") w
  · have ends := createNetwork_free valid free
    rw [rejected] at ends
    cases ends with
    | refused | unidentified | subnetless | unreadable => simp [alreadyExists] at conflict
  · cases wp_of_error (createNetwork_stopped valid free) rejected with
    | offline same unconflicted =>
      rw [← conflict] at unconflicted
      exact absurd rfl unconflicted
    | unanswered => simp [alreadyExists] at conflict
    | taken found there => exact ⟨_, found, there⟩

theorem undone_of_networks {p : Obj} {exc : Exc} (valid : p.Valid networkCreateRequestSchema)
    (raised : createNetwork env (.model p) w = .error exc t)
    (same : neutron.networks t = neutron.networks w) : neutron.Undone env p w t where
  networks := same
  list := by
    have follows := @createNetwork_follows env w p valid
    rw [raised] at follows
    exact current_of_follows follows same
  again := by
    intro finds u rejected
    obtain ⟨existing, found, there⟩ := alreadyExists_found valid rejected
    rw [← same]
    exact finds existing found there

end Lists

section Outcome
variable {neutron : Neutron} {env : Env} {w : World} {p : Obj} {name cidr : Val}

theorem stopped_networks {exc : Exc} {t : World} (stops : Stopped env (p.field "name") w exc t) :
    neutron.networks t = neutron.networks w := by
  cases stops with
  | offline same unconflicted => rw [Neutron.networks, same.1, Neutron.networks]
  | unanswered | taken => exact networks_checked

/-- A network that is requested stays, however create_network ends. -/
theorem made_networks {result : EStateM.Result Exc World Any} (ends : Made env name cidr w result) :
    neutron.networks (endOf result) = neutron.networks (w.requested env name) := by
  cases ends with
  | refused | unidentified => rfl
  | subnetless | unreadable | complete => exact networks_subnetted

theorem completes_iff {result : EStateM.Result Exc World Any} (ends : Made env name cidr w result) :
    Completes env name cidr w ↔ ∃ a t, result = .ok a t := by
  constructor
  · rintro ⟨network, id, subnet, summary, answer, identity, granted, readable⟩
    cases ends with
    | refused lost => exact absurd (lost.symm.trans answer) (by simp)
    | unidentified answered bare =>
      cases answered.symm.trans answer
      exact absurd (bare.symm.trans identity) (by simp)
    | subnetless answered identified lost =>
      cases answered.symm.trans answer
      cases identified.symm.trans identity
      exact absurd (lost.symm.trans granted) (by simp)
    | unreadable answered identified made bad =>
      cases answered.symm.trans answer
      exact absurd (bad.symm.trans readable) (by simp)
    | complete => exact ⟨_, _, rfl⟩
  · rintro ⟨a, t, rfl⟩
    cases ends with
    | complete answered identified made good => exact ⟨_, _, _, _, answered, identified, made, good⟩

/-- create_network is all or nothing exactly when a network that it makes is not left
without its subnet or its summary. -/
theorem createNetwork_all_or_nothing_iff (valid : p.Valid networkCreateRequestSchema) :
    neutron.AllOrNothing env p w ↔ Spared neutron env p w := by
  constructor
  · intro nothing free
    have ends := createNetwork_free valid free
    cases run : createNetwork env (.model p) w with
    | ok a t =>
      rw [run] at ends
      exact .inr ((completes_iff ends).mpr ⟨a, t, rfl⟩)
    | error exc t =>
      rw [run] at ends
      exact .inl ((made_networks ends).symm.trans (nothing exc t run).networks)
  · intro spared exc t run
    apply undone_of_networks valid run
    by_cases free : Free env (p.field "name") w
    · have ends := createNetwork_free valid free
      rw [run] at ends
      obtain same | completes := spared free
      · exact (made_networks ends).trans same
      · obtain ⟨a, u, returned⟩ := (completes_iff ends).mp completes
        contradiction
    · exact stopped_networks (wp_of_error (createNetwork_stopped valid free) run)

end Outcome

/- Networks are made by the requests for them that are answered, under the name given. -/
def madeNetwork (x : Exchange) : List String :=
  if x.request.operation = "create_network" then
    match x.outcome.result with
    | .ok _ => [((x.request.kwargs.lookup "name").getD .none).text]
    | .error _ => []
  else []

def plainNeutron : Neutron where
  held history := history.flatMap madeNetwork
  reads history x reads := by
    have unmade : madeNetwork x = [] := by
      unfold madeNetwork
      split
      · rename_i creates
        simp [creates] at reads
      · rfl
    simp [unmade]

theorem obliging_all_or_nothing : plainNeutron.AllOrNothing obligingCloud blueNetwork .initial := by
  apply (createNetwork_all_or_nothing_iff blueNetwork_valid).mpr
  intro free
  exact .inr ⟨_, _, _, _, rfl, rfl, rfl, rfl⟩

/- A cloud that makes the network and then no subnet, and that finds the network afterwards. -/
def subnetlessCloud : Env where
  ready := true
  listLimit := 1000
  connect _ := none
  sdk n request :=
    if request.operation = "create_subnet" then { result := .error (.foreign "ConflictException" "quota exceeded") }
    else if request.operation = "create_network" ∨ 3 < n then
      { result := .ok ⟨.dict [("id", .str "net-1"), ("name", .str "blue")], none⟩ }
    else { result := .ok ⟨.none, none⟩ }
  wall _ := 0
  lag _ := 0
  redisUp _ := true
  databaseUp _ := true
  uuid _ := "uuid"

/-- The network stays without a subnet, and the same request is turned down from then on. -/
theorem subnetless_network_stays :
    ∃ exc t u, createNetwork subnetlessCloud (.model blueNetwork) .initial = .error exc t ∧
      plainNeutron.networks .initial = [] ∧ plainNeutron.networks t = ["blue"] ∧
      createNetwork subnetlessCloud (.model blueNetwork) t = .error (alreadyExists (.str "blue")) u :=
  ⟨_, _, _, rfl, rfl, rfl, rfl⟩

theorem subnet_failure_not_undone :
    ¬ ∀ (neutron : Neutron) env payload w, payload.Valid networkCreateRequestSchema →
      neutron.AllOrNothing env payload w := by
  intro claim
  obtain ⟨exc, t, _, raised, before, after, _⟩ := subnetless_network_stays
  have undone := claim plainNeutron subnetlessCloud blueNetwork .initial blueNetwork_valid exc t raised
  have same := undone.networks
  rw [before, after] at same
  contradiction

/- The requests for a network and for a subnet that were sent in between. -/
def creationsSince (w t : World) : List SdkCall :=
  (t.log.drop w.log.length).filter (fun request => request.operation ∈ ["create_network", "create_subnet"])

def creations (env : Env) (payload : Obj) (w : World) : List SdkCall :=
  creationsSince w (endOf (createNetwork env (.model payload) w))

/- Two instances that differ in a field that their model declares. -/
def Differ (schema : Schema) (p q : Obj) : Prop :=
  ∃ field ∈ schema.fields.map Field.name, p.field field ≠ q.field field

section Creations
variable {env : Env} {w : World} {name id cidr : Val} {p q : Obj}

theorem since_checked : creationsSince w (w.checked env name) = [] := by
  simp [creationsSince, World.checked, World.called, World.online, findRequest]

theorem since_requested : creationsSince w (w.requested env name) = [createRequest name] := by
  simp [creationsSince, World.requested, World.checked, World.called, World.online, findRequest, createRequest]

theorem since_subnetted :
    creationsSince w (w.subnetted env name id cidr) = [createRequest name, subnetRequest name id cidr] := by
  simp [creationsSince, World.subnetted, World.requested, World.checked, World.called, World.online, findRequest,
    createRequest, subnetRequest]

theorem networkId_answered {network : Reply} (answered : networkReply env name w = .ok network) :
    networkId env name w = network.value.get? "id" := by
  rw [networkId, answered]
  rfl

theorem networkId_refused {exc : Exc} (lost : networkReply env name w = .error exc) :
    networkId env name w = none := by
  rw [networkId, lost]
  rfl

theorem creations_free (valid : p.Valid networkCreateRequestSchema) (free : Free env (p.field "name") w) :
    creations env p w = createRequest (p.field "name") ::
      ((networkId env (p.field "name") w).map
        (fun id => subnetRequest (p.field "name") id (p.field "cidr"))).toList := by
  have ends := createNetwork_free valid free
  unfold creations
  generalize createNetwork env (.model p) w = result at ends
  cases ends with
  | refused lost =>
    rw [networkId_refused lost]
    exact since_requested
  | unidentified answered bare =>
    rw [networkId_answered answered, bare]
    exact since_requested
  | subnetless answered identified | unreadable answered identified | complete answered identified =>
    rw [networkId_answered answered, identified]
    exact since_subnetted

theorem creations_stopped (valid : p.Valid networkCreateRequestSchema) (blocked : ¬ Free env (p.field "name") w) :
    creations env p w = [] := by
  have stops := createNetwork_stopped valid blocked
  unfold creations
  cases run : createNetwork env (.model p) w with
  | ok a t => exact (wp_of_ok stops run).elim
  | error exc t =>
    cases wp_of_error stops run with
    | offline same unconflicted => simp [creationsSince, endOf, same.2.1]
    | unanswered | taken => exact since_checked

/- The fields that tell two requests apart: the name, if one of the two is free, and the
CIDR, if it comes to a subnet. -/
def ToldApart (env : Env) (p q : Obj) (w : World) : Prop :=
  (p.field "name" ≠ q.field "name" ∧ (Free env (p.field "name") w ∨ Free env (q.field "name") w)) ∨
    (p.field "cidr" ≠ q.field "cidr" ∧ Free env (p.field "name") w ∧
      (networkId env (p.field "name") w).isSome = true)

theorem createRequest_inj {a b : Val} : createRequest a = createRequest b ↔ a = b := by simp [createRequest]

theorem subnetRequest_inj {a b : Val} : subnetRequest name id a = subnetRequest name id b ↔ a = b := by
  simp [subnetRequest]

variable (hp : p.Valid networkCreateRequestSchema) (hq : q.Valid networkCreateRequestSchema)
include hp hq

theorem creations_ne_of_names (differ : p.field "name" ≠ q.field "name") :
    creations env p w ≠ creations env q w ↔ Free env (p.field "name") w ∨ Free env (q.field "name") w := by
  by_cases first : Free env (p.field "name") w
  · rw [creations_free hp first]
    by_cases second : Free env (q.field "name") w
    · rw [creations_free hq second]
      simp [createRequest_inj, differ, first]
    · rw [creations_stopped hq second]
      simp [first]
  · rw [creations_stopped hp first]
    by_cases second : Free env (q.field "name") w
    · rw [creations_free hq second]
      simp [second]
    · rw [creations_stopped hq second]
      simp [first, second]

/-- Two requests of one name get the same answers up to the request for the subnet. -/
theorem creations_ne_of_cidrs (same : p.field "name" = q.field "name") :
    creations env p w ≠ creations env q w ↔
      p.field "cidr" ≠ q.field "cidr" ∧ Free env (p.field "name") w ∧
        (networkId env (p.field "name") w).isSome = true := by
  by_cases free : Free env (p.field "name") w
  · rw [creations_free hp free, creations_free hq (same ▸ free), ← same]
    cases networkId env (p.field "name") w with
    | none => simp
    | some id => simp [subnetRequest_inj, free]
  · rw [creations_stopped hp free, creations_stopped hq (same ▸ free)]
    simp [free]

theorem creations_ne_iff : creations env p w ≠ creations env q w ↔ ToldApart env p q w := by
  by_cases same : p.field "name" = q.field "name"
  · rw [creations_ne_of_cidrs hp hq same, ToldApart]
    simp [same]
  · rw [creations_ne_of_names hp hq same, ToldApart]
    constructor
    · intro free
      exact .inl ⟨same, free⟩
    · rintro (⟨_, free⟩ | ⟨_, free, _⟩)
      · exact free
      · exact .inl free

/-- Of the nine fields of a request, the name and the CIDR are the only ones that are passed on. -/
theorem request_honoured_iff :
    (Differ networkCreateRequestSchema p q → creations env p w ≠ creations env q w) ↔
      (Differ networkCreateRequestSchema p q → ToldApart env p q w) :=
  imp_congr_right (fun _ => creations_ne_iff hp hq)

end Creations

/- A request for the network blue with one field given as well. -/
def blueWith (name : String) (v : Val) : Obj :=
  ⟨"NetworkCreateRequest", blueNetwork.attrs.map (fun kv => if kv.1 = name then (name, v) else kv)⟩

theorem other_cidr_honoured :
    creations obligingCloud blueNetwork .initial ≠
      creations obligingCloud (blueWith "cidr" (.str "10.1.0.0/24")) .initial := by
  have valid : (blueWith "cidr" (.str "10.1.0.0/24")).Valid networkCreateRequestSchema :=
    ⟨[("name", .str "blue"), ("cidr", .str "10.1.0.0/24")], rfl⟩
  have former : blueNetwork.field "cidr" = .str "10.0.0.0/24" := rfl
  have given : (blueWith "cidr" (.str "10.1.0.0/24")).field "cidr" = .str "10.1.0.0/24" := rfl
  have other : blueNetwork.field "cidr" ≠ (blueWith "cidr" (.str "10.1.0.0/24")).field "cidr" := by
    simp [former, given]
  apply (request_honoured_iff blueNetwork_valid valid).mpr
  · intro _
    exact .inr ⟨other, ⟨rfl, _, rfl, rfl⟩, rfl⟩
  · exact ⟨"cidr", by decide, other⟩

/-- A network that is to be shared is requested like one that is not. -/
theorem shared_not_honoured :
    (blueWith "shared" (.bool true)).Valid networkCreateRequestSchema ∧
      Free obligingCloud (blueNetwork.field "name") .initial ∧
      ¬ (Differ networkCreateRequestSchema blueNetwork (blueWith "shared" (.bool true)) →
        creations obligingCloud blueNetwork .initial ≠
          creations obligingCloud (blueWith "shared" (.bool true)) .initial) := by
  have valid : (blueWith "shared" (.bool true)).Valid networkCreateRequestSchema :=
    ⟨[("name", .str "blue"), ("cidr", .str "10.0.0.0/24"), ("shared", .bool true)], rfl⟩
  refine ⟨valid, ⟨rfl, _, rfl, rfl⟩, ?_⟩
  intro claim
  have former : blueNetwork.field "shared" = .bool false := rfl
  have given : (blueWith "shared" (.bool true)).field "shared" = .bool true := rfl
  exact claim ⟨"shared", by decide, by simp [former, given]⟩ rfl

end VMachine.OpenStack
