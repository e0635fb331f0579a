import VMachine.Cache.Equivalence
import VMachine.OpenStack.Polling

/-! The dashboard's summary. Its numbers of instances are taken from list_servers, which
returns models after a fetch and from the memory cache, and dictionaries from Redis. The
status of each is read with `getattr` and a default. -/
namespace VMachine.Monitoring
open Py Effects OpenStack

structure DashboardSummary where
  totalInstances : Nat
  activeInstances : Nat
  totalHypervisors : Nat
  totalNetworks : Nat
  totalVolumes : Nat
  activeAlerts : Nat
  totalStorageGb : Nat
  usedStorageGb : Nat
  deriving Repr, DecidableEq

/- `getattr(s, name, default)`. A dictionary has no attribute of the names that a model
declares. -/
def itemGetattr (s : Item) (name : String) (default : Val) : Val :=
  match s with
  | .model o => (o.getattr name).getD default
  | .plain _ => default

/- `v == text`. -/
def isStr (text : String) : Val → Bool
  | .str s => s == text
  | _ => false

def activeItem (s : Item) : Bool := isStr "ACTIVE" (itemGetattr s "status" (.str ""))

section Service
variable (env : Env)

/- The number of alert records whose status is "active". The table is given by the statuses
of its rows. -/
def countActiveAlerts (alerts : List String) : M Nat := do
  let n ← ask
  if env.databaseUp n then return (alerts.filter (· = "active")).length
  else throw (.foreign "OperationalError" "database unavailable")

/- What list_servers raises is swallowed, and the numbers stay at zero. -/
def countInstances (summary : DashboardSummary) : M DashboardSummary :=
  tryCatch (do
    let servers ← listServers env
    return { summary with
      totalInstances := servers.items.length
      activeInstances := (servers.items.filter activeItem).length })
    (fun _ => return summary)

def getDashboardSummary (alerts : List String) (computeService : Bool) : M DashboardSummary := do
  let activeAlerts ← countActiveAlerts env alerts
  let summary : DashboardSummary := ⟨0, 0, 0, 0, 0, activeAlerts, 0, 0⟩
  if computeService then countInstances env summary else return summary

end Service

/- The servers whose status is ACTIVE. -/
def activeCount (servers : List Obj) : Nat :=
  (servers.filter (fun o => isStr "ACTIVE" ((o.getattr "status").getD .none))).length

/- The summary that is reported counts these servers. -/
def Reports (env : Env) (alerts : List String) (w : World) (servers : List Obj) : Prop :=
  ∃ summary t, getDashboardSummary env alerts true w = .ok summary t ∧
    summary.totalInstances = servers.length ∧ summary.activeInstances = activeCount servers

/- The world once the alerts have been counted. -/
def queried (w : World) : World := { w with tick := w.tick + 1 }

/- What list_servers finds in the cache. -/
def cachedServers (env : Env) (w : World) : Option Listing :=
  (Cache.cacheGet (env.redisUp w.tick) (env.wall w.tick) "servers" w.cache).1

def onRedis (w : World) : Bool := !w.cache.reaches false

/- The form in which the backend keeps a list of servers. -/
def keptAs (w : World) (servers : List Obj) : List Item :=
  if onRedis w then (servers.map .model).map Item.dump else servers.map .model

/- The list of servers is in the cache, where an earlier fetch of them has left it. -/
def Hit (env : Env) (w : World) (servers : List Obj) : Prop :=
  ∃ listing, cachedServers env w = some listing ∧ listing.items = keptAs w servers

/- The world after the cache has been asked for the servers. -/
def missed (env : Env) (w : World) : World :=
  { w with
    tick := w.tick + 1
    cache := (Cache.cacheGet (env.redisUp w.tick) (env.wall w.tick) "servers" w.cache).2 }

def serversRequest (env : Env) : SdkCall := ⟨"compute", "servers", [], [("limit", .int env.listLimit)]⟩

/- The list of servers is not in the cache, and OpenStack returns it. -/
def Fetched (env : Env) (w : World) (servers : List Obj) : Prop :=
  cachedServers env w = none ∧ connects env (missed env w) = true ∧
  ∃ reply, (env.sdk (missed env w).online.tick (serversRequest env)).result = .ok reply ∧
    comprehend serializeServerSummary reply = .ok servers

section Listing
variable {env : Env} {w : World} {servers : List Obj}

theorem cacheGet_run : cacheGet env "servers" w = .ok (cachedServers env w) (missed env w) := rfl

theorem listServers_hit {listing : Listing} (cached : cachedServers env w = some listing) :
    wp (listServers env) w (fun l _ => l = listing) (fun _ _ => False) := by
  rw [listServers, wp_bind, wp_iff_of_ok cacheGet_run, cached]
  exact rfl

theorem listServers_fetched (fetched : Fetched env w servers) :
    wp (listServers env) w (fun l _ => l.items = servers.map .model) (fun _ _ => False) := by
  obtain ⟨missing, online, reply, result, serialized⟩ := fetched
  rw [listServers, wp_bind, wp_iff_of_ok cacheGet_run, missing]
  simp only [wp_bind, wp_get]
  rw [wp_call online result, serialized]
  simp [cacheSet, ask]

/- The world in which a fetched list is written to the cache. -/
def fetchedAt (env : Env) (w : World) : World := (missed env w).online.called env (serversRequest env)

/-- A fetch leaves its servers in the cache, in the form of the backend, for the lifetime of
the resource. The backend stays what it is. -/
theorem fetch_leaves_hit {lifetimes : Cache.Lifetimes} (serves : w.cache.Serves lifetimes)
    (fetched : Fetched env w servers) (reached : env.redisUp w.tick = true)
    (written : env.redisUp (fetchedAt env w).tick = true) :
    wp (listServers env) w
      (fun _ t => ∀ u : World, u.cache = t.cache → env.redisUp u.tick = true →
        env.wall u.tick < env.wall (fetchedAt env w).tick + Cache.seconds (lifetimes.ttl .servers) →
        Hit env u servers ∧ onRedis u = onRedis w)
      (fun _ _ => False) := by
  obtain ⟨missing, online, reply, result, serialized⟩ := fetched
  have stillServes : (missed env w).cache.Serves lifetimes := by
    have asked := (Cache.cacheGet_effect serves .servers (env.wall w.tick)).2.1
    rw [missed, reached]
    exact asked
  rw [listServers, wp_bind, wp_iff_of_ok cacheGet_run, missing]
  simp only [wp_bind, wp_get]
  rw [wp_call online result, serialized]
  simp only [wp_ofExcept_ok, cacheSet, ask, wp_bind, wp_get, wp_set, wp_pure, wp_modify]
  intro u kept up early
  have stored : u.cache = Cache.cacheSet true (env.wall (fetchedAt env w).tick) Listing.json "servers"
      ⟨servers.map .model, (missed env w).log.length⟩ (missed env w).cache := by
    rw [kept, ← written]
    rfl
  obtain ⟨served, seen, _⟩ := Cache.cacheSet_effect stillServes .servers (env.wall (fetchedAt env w).tick) Listing.json
    ⟨servers.map .model, (missed env w).log.length⟩
  have kind : u.cache.reaches false = (missed env w).cache.reaches false := by
    rw [stored]
    exact Cache.cacheSet_reaches false _ _ _ true _ _
  have same : onRedis u = onRedis w := by
    rw [onRedis, kind]
    exact congrArg not (Cache.cacheGet_reaches false _ "servers" w.cache _)
  refine ⟨⟨(missed env w).cache.form Listing.json ⟨servers.map .model, (missed env w).log.length⟩, ?_, ?_⟩, same⟩
  · have found := (Cache.cacheGet_effect served .servers (env.wall u.tick)).1
    rw [seen .servers, if_pos rfl, if_pos early] at found
    rw [cachedServers, up, stored]
    exact found
  · rw [keptAs, onRedis, kind, Cache.form_eq]
    cases (missed env w).cache.reaches false with
    | true => rfl
    | false => rfl

end Listing

section Summary
variable {env : Env} {alerts : List String} {w : World} {servers : List Obj}

/-- The summary is made of the list that list_servers returns. -/
theorem summary_of_listing {items : List Item} (up : env.databaseUp w.tick = true)
    (listed : wp (listServers env) (queried w) (fun l _ => l.items = items) (fun _ _ => False)) :
    wp (getDashboardSummary env alerts true) w
      (fun summary _ => summary.totalInstances = items.length ∧
        summary.activeInstances = (items.filter activeItem).length) (fun _ _ => False) := by
  simp only [getDashboardSummary, countActiveAlerts, ask, wp_bind, wp_get, wp_set, wp_pure, up, if_true, countInstances,
    wp_tryCatch]
  refine wp_mono listed ?_ (fun _ _ never => never.elim)
  rintro listing t rfl
  exact ⟨rfl, rfl⟩

theorem reports_iff {items : List Item} (up : env.databaseUp w.tick = true)
    (listed : wp (listServers env) (queried w) (fun l _ => l.items = items) (fun _ _ => False)) :
    Reports env alerts w servers ↔
      items.length = servers.length ∧ (items.filter activeItem).length = activeCount servers := by
  obtain ⟨summary, t, run, total, active⟩ := wp_iff_exists_ok.mp (@summary_of_listing env alerts w items up listed)
  constructor
  · rintro ⟨other, u, again, total', active'⟩
    cases run.symm.trans again
    exact ⟨total.symm.trans total', active.symm.trans active'⟩
  · rintro ⟨sameTotal, sameActive⟩
    exact ⟨summary, t, run, total.trans sameTotal, active.trans sameActive⟩

theorem active_models : ((servers.map Item.model).filter activeItem).length = activeCount servers := by
  unfold activeCount
  rw [List.filter_map, List.length_map]
  congr 2
  funext o
  change isStr "ACTIVE" ((o.getattr "status").getD (.str "")) = isStr "ACTIVE" ((o.getattr "status").getD .none)
  cases o.getattr "status" <;> rfl

/-- No dictionary counts as active. -/
theorem active_dumped : (((servers.map Item.model).map Item.dump).filter activeItem).length = 0 := by
  rw [List.map_map, List.filter_map, List.length_map, List.length_eq_zero_iff, List.filter_eq_nil_iff]
  intro o _
  exact Bool.false_ne_true

/-- What list_servers finds in the cache is what it returns. -/
theorem listServers_kept (hit : Hit env w servers) :
    wp (listServers env) w (fun l _ => l.items = keptAs w servers) (fun _ _ => False) := by
  obtain ⟨listing, cached, form⟩ := hit
  refine wp_mono (listServers_hit cached) ?_ (fun _ _ never => never)
  rintro _ _ rfl
  exact form

/-- Servers that Redis returns are counted as inactive. -/
theorem redis_reports_iff (up : env.databaseUp w.tick = true) (redis : onRedis w = true)
    (hit : Hit env (queried w) servers) : Reports env alerts w servers ↔ activeCount servers = 0 := by
  have there : onRedis (queried w) = true := redis
  rw [reports_iff up (listServers_kept hit), keptAs, if_pos there, active_dumped, List.length_map, List.length_map]
  exact ⟨fun same => same.2.symm, fun none => ⟨rfl, none.symm⟩⟩

theorem memory_reports (up : env.databaseUp w.tick = true) (memory : onRedis w = false)
    (hit : Hit env (queried w) servers) : Reports env alerts w servers := by
  have there : ¬ onRedis (queried w) = true := by
    change ¬ onRedis w = true
    rw [memory]
    exact Bool.false_ne_true
  rw [reports_iff up (listServers_kept hit), keptAs, if_neg there, active_models, List.length_map]
  exact ⟨rfl, rfl⟩

theorem fetch_reports (up : env.databaseUp w.tick = true) (fetched : Fetched env (queried w) servers) :
    Reports env alerts w servers := by
  rw [reports_iff up (listServers_fetched fetched), active_models, List.length_map]
  exact ⟨rfl, rfl⟩

end Summary

/-- Without the alerts there is no summary. -/
theorem unreported_of_down {env : Env} {alerts : List String} {w : World} {servers : List Obj}
    (down : env.databaseUp w.tick = false) : ¬ Reports env alerts w servers := by
  rintro ⟨summary, t, run, _⟩
  have raises : wp (getDashboardSummary env alerts true) w (fun _ _ => False) (fun _ _ => True) := by
    simp only [getDashboardSummary, countActiveAlerts, ask, wp_bind, wp_get, wp_set, wp_pure, wp_throw, down,
      Bool.false_eq_true, if_false]
  exact wp_of_ok raises run

/-- Where the alerts can be read, the dashboard counts the servers as they are, unless Redis
returns them and one of them is ACTIVE. -/
theorem dashboard_reports_iff (env : Env) (alerts : List String) (w : World) (servers : List Obj)
    (answered : Hit env (queried w) servers ∨ Fetched env (queried w) servers) :
    Reports env alerts w servers ↔ env.databaseUp w.tick = true ∧
      ¬ (onRedis w = true ∧ Hit env (queried w) servers ∧ 0 < activeCount servers) := by
  cases up : env.databaseUp w.tick with
  | false => exact iff_of_false (unreported_of_down up) (fun both => Bool.false_ne_true both.1)
  | true =>
    rw [eq_self_iff_true, true_and]
    obtain hit | fetched := answered
    · cases redis : onRedis w with
      | true =>
        rw [redis_reports_iff up redis hit]
        constructor
        · rintro none ⟨_, _, some⟩
          omega
        · intro inactive
          by_contra some
          exact inactive ⟨rfl, hit, Nat.pos_of_ne_zero some⟩
      | false =>
        exact iff_of_true (memory_reports up redis hit) (fun onRedis => absurd onRedis.1 Bool.false_ne_true)
    · refine iff_of_true (fetch_reports up fetched) ?_
      rintro ⟨_, ⟨listing, cached, _⟩, _⟩
      exact absurd (fetched.1.symm.trans cached) (by simp)

/-- Once list_servers has fetched a list, the dashboard counts its servers as long as the list
lives, unless Redis returns them and one of them is ACTIVE. -/
theorem counted_after_fetch_iff {env : Env} {alerts : List String} {w t u : World} {servers : List Obj}
    {lifetimes : Cache.Lifetimes} {listing : Listing} (serves : w.cache.Serves lifetimes)
    (fetched : Fetched env w servers) (reached : env.redisUp w.tick = true)
    (written : env.redisUp (fetchedAt env w).tick = true) (run : listServers env w = .ok listing t)
    (kept : u.cache = t.cache) (up : env.databaseUp u.tick = true) (asked : env.redisUp (u.tick + 1) = true)
    (early : env.wall (u.tick + 1) < env.wall (fetchedAt env w).tick + Cache.seconds (lifetimes.ttl .servers)) :
    Reports env alerts u servers ↔ ¬ (onRedis w = true ∧ 0 < activeCount servers) := by
  obtain ⟨hit, same⟩ := wp_of_ok (fetch_leaves_hit serves fetched reached written) run (queried u) kept asked early
  change onRedis u = onRedis w at same
  cases redis : onRedis w with
  | true =>
    rw [redis_reports_iff up (same.trans redis) hit]
    constructor
    · rintro none ⟨_, some⟩
      omega
    · intro inactive
      by_contra some
      exact inactive ⟨rfl, Nat.pos_of_ne_zero some⟩
  | false =>
    exact iff_of_true (memory_reports up (same.trans redis) hit) (fun onRedis => absurd onRedis.1 Bool.false_ne_true)

/- One ACTIVE server, as ServerSummary and as Nova returns it. -/
def webSummary : Obj where
  cls := "ServerSummary"
  attrs := [("id", .str "srv-1"), ("name", .str "web01"), ("status", .str "ACTIVE"), ("operation_task_id", .none),
    ("flavor_id", .none), ("image_id", .none), ("created", .none), ("key_name", .none), ("project_id", .none),
    ("availability_zone", .none), ("addresses", .dict [])]

def novaWithServer : Env where
  ready := true
  listLimit := 1000
  connect _ := none
  sdk _ _ := { result := .ok ⟨.list [webServer "ACTIVE"], none⟩ }
  wall _ := 0
  lag _ := 0
  redisUp _ := true
  databaseUp _ := true
  uuid _ := "uuid"

def emptyRedis : Cache.State Listing where
  ttls := Cache.defaultTtls
  counters := ⟨∅, ∅, ∅⟩
  backend := some (.redis ⟨"admin", ⟨∅, ∅, ∅⟩, 0⟩ ∅)

/- A process whose cache is in Redis and empty. -/
def freshRedisWorld : World where
  __ := World.initial
  cache := emptyRedis

theorem uncounted_after_fetch : ∃ listing t, listServers novaWithServer freshRedisWorld = .ok listing t ∧
    ¬ Reports novaWithServer [] t [webSummary] := by
  have serves : freshRedisWorld.cache.Serves Cache.defaultLifetimes := by
    change Cache.defaultTtls = Cache.defaultLifetimes.table
    rfl
  have fetched : Fetched novaWithServer freshRedisWorld [webSummary] := ⟨rfl, rfl, _, rfl, rfl⟩
  obtain ⟨listing, t, run, _⟩ := wp_iff_exists_ok.mp (listServers_fetched fetched)
  have early : 0 < Cache.seconds (Cache.defaultLifetimes.ttl .servers) := by decide
  refine ⟨listing, t, run, ?_⟩
  rw [@counted_after_fetch_iff novaWithServer [] freshRedisWorld t t [webSummary] Cache.defaultLifetimes listing serves
    fetched rfl rfl run rfl rfl rfl early]
  exact not_not.mpr ⟨rfl, by decide⟩

/- A process whose cache is in Redis, where the list has been written at time 0. -/
def redisWorld : World where
  __ := World.initial
  cache := Cache.cacheSet true 0 Listing.json "servers" ⟨[.model webSummary], 0⟩ emptyRedis

theorem dashboard_reports_fetched : Reports novaWithServer [] .initial [webSummary] := by
  have fetched : Fetched novaWithServer (queried .initial) [webSummary] := ⟨rfl, rfl, _, rfl, rfl⟩
  rw [dashboard_reports_iff novaWithServer [] .initial [webSummary] (.inr fetched)]
  refine ⟨rfl, ?_⟩
  rintro ⟨redis, _⟩
  exact absurd redis (by decide)

theorem dashboard_misses_active :
    ¬ ∀ env alerts w servers, env.databaseUp w.tick = true →
      (Hit env (queried w) servers ∨ Fetched env (queried w) servers) → Reports env alerts w servers := by
  intro claim
  have hit : Hit novaWithServer (queried redisWorld) [webSummary] := ⟨_, rfl, rfl⟩
  have reports := claim novaWithServer [] redisWorld [webSummary] rfl (.inl hit)
  have none := (redis_reports_iff rfl rfl hit).mp reports
  exact absurd none (by decide)

end VMachine.Monitoring
