import VMachine.Cache.Equivalence

/-! Lifetimes that are changed while the cache is in use. RedisCache looks a lifetime up at every
write; the stores of the memory backend keep the ones that they were built with, and the status
tells the ones that were asked for. Lifetimes are integers here, as `set_ttl` takes them. -/
namespace VMachine.Cache

section Functions
variable {β : Type}

def isRedis (s : State β Int) : Bool :=
  match s.backend with
  | some (.redis _ _) => true
  | _ => false

/- `init_cache_backend`. Without a Redis that answers it makes a memory backend. -/
def initCacheBackend (redis : Option (RedisCache × RedisServer β Int)) (s : State β Int) : State β Int :=
  match redis with
  | some (client, server) => { s with backend := some (.redis client server) }
  | none => { s with backend := some (memoryCacheBackend s.ttls) }

def getTtl (resource : String) (s : State β Int) : Int := (s.ttls.lookup resource).getD 30

def setTtl (resource : String) (ttlSeconds : Int) (s : State β Int) : State β Int :=
  { s with ttls := s.ttls.insert resource ttlSeconds }

structure ResourceStatus where
  ttlSeconds : Int
  size : Nat

structure CacheStatus where
  backend : String
  ttls : Table Int
  resources : Option (Table ResourceStatus)

def TTLCache.size {τ : Type} (c : TTLCache β τ) : Nat := c.store.entries.length

def getCacheStatus (s : State β Int) : CacheStatus where
  backend := if isRedis s then "redis" else "memory"
  ttls := s.ttls
  resources :=
    match s.backend with
    | some (.memory stores) => some (List.toAList (stores.entries.map (fun e => ⟨e.1, getTtl e.1 s, e.2.size⟩)))
    | _ => none

/- What a status says of a resource: `ttls` with any backend, `resources` with the memory backend. -/
def CacheStatus.Reports (status : CacheStatus) (resource : String) (ttlSeconds : Int) : Prop :=
  status.ttls.lookup resource = some ttlSeconds ∨
  ∃ resources entry, status.resources = some resources ∧ resources.lookup resource = some entry ∧
    entry.ttlSeconds = ttlSeconds

/- Whether a write is carried out. SETEX refuses a lifetime that is not positive, and its error is
caught as that of a lost connection is. -/
def State.accepts (s : State β Int) (resource : String) (ok : Bool) : Bool :=
  s.reaches ok && (!isRedis s || decide (0 < getTtl resource s))

end Functions

inductive Call (β : Type) where
  | setTtl (resource : String) (ttlSeconds : Int)
  | set (resource : String) (value : β)
  | get (resource : String)
  | invalidate (resource : String)

/- The lifetime that a call asks for. -/
def Call.asks {β : Type} (resource : String) : Call β → Option Int
  | .setTtl other ttlSeconds => if other = resource then some ttlSeconds else none
  | _ => none

/- Newer sets and invalidations. -/
def Call.replaces {β : Type} (resource : String) : Call β → Bool
  | .set other _ => other = resource
  | .invalidate other => other = resource
  | _ => false

/- A call at a time. `ok` says whether its command to Redis succeeds. -/
structure TimedCall (β : Type) where
  now : Int
  ok : Bool
  call : Call β

/- What a process has configured its cache with. DEFAULT_TTLS always has the four resources. -/
structure Configured (β : Type) where
  ttls : Table Int
  complete : ∀ x : Resource, x.name ∈ ttls
  counters : Counters
  redis : Option (RedisCache × RedisServer β Int)

namespace Configured
variable {β : Type}

def state (c : Configured β) : State β Int := initCacheBackend c.redis ⟨c.ttls, c.counters, none⟩

/- The lifetime of a resource at that moment. -/
def ttl (c : Configured β) (x : Resource) : Int := getTtl x.name c.state

end Configured

section Calls
variable {β : Type} (json : β → β)

def State.perform (s : State β Int) (c : TimedCall β) : State β Int :=
  match c.call with
  | .setTtl resource ttlSeconds => setTtl resource ttlSeconds s
  | .set resource value => cacheSet (s.accepts resource c.ok) c.now json resource value s
  | .get resource => (cacheGet c.ok c.now resource s).2
  | .invalidate resource => cacheInvalidate c.ok resource s

def State.after (s : State β Int) (calls : List (TimedCall β)) : State β Int := calls.foldl (State.perform json) s

/- An entry that is stored after `set_ttl(x, d)` is returned until `d` seconds after it was stored,
and no longer, by a read that reaches the backend at a time after all of the calls. -/
def LivesAsAsked (start : State β Int) (calls : List (TimedCall β)) : Prop :=
  ∀ (x : Resource) earlier asking between writing since d value, calls = earlier ++ asking :: between ++ writing :: since →
    asking.call = .setTtl x.name d → (∀ c ∈ between, c.call.asks x.name = none) →
    writing.call = .set x.name value →
    (start.after json (earlier ++ asking :: between)).accepts x.name writing.ok = true →
    (∀ c ∈ since, c.call.replaces x.name = false) → ∀ t, (∀ c ∈ calls, c.now ≤ t) →
      (cacheGet true t x.name (start.after json calls)).1 =
        if t < writing.now + seconds d then some (start.form json value) else none

/- What the status reports of a resource is the lifetime that a new entry gets. -/
def ReportsLifetimes (s : State β Int) : Prop :=
  ∀ (x : Resource) d, (getCacheStatus s).Reports x.name d → ∀ ok, s.accepts x.name ok = true → ∀ now value,
    (cacheSet ok now json x.name value s).peek x.name = some ⟨s.form json value, now + seconds d⟩

end Calls

section Steps
variable {β : Type} {json : β → β} {s : State β Int} {resource : String}

theorem isRedis_eq : isRedis s = !s.reaches false := by
  unfold isRedis State.reaches
  cases s.backend with
  | none => rfl
  | some b => cases b <;> rfl

theorem reaches_of_accepts {ok : Bool} (accepted : s.accepts resource ok = true) : s.reaches ok = true :=
  (Bool.and_eq_true_iff.mp accepted).1

/-- No call changes the kind of the backend, -/
theorem perform_reaches_kind (c : TimedCall β) (ok : Bool) : (s.perform json c).reaches ok = s.reaches ok := by
  unfold State.perform
  split
  · rfl
  · exact cacheSet_reaches ..
  · exact cacheGet_reaches ..
  · exact cacheInvalidate_reaches ..

theorem asks_eq {call : Call β} {d : Int} : call.asks resource = some d ↔ call = .setTtl resource d := by
  cases call with
  | setTtl other ttlSeconds => simp [Call.asks]
  | _ => simp [Call.asks]

/-- and `set_ttl` alone changes DEFAULT_TTLS. -/
theorem perform_getTtl (c : TimedCall β) :
    getTtl resource (s.perform json c) = (c.call.asks resource).getD (getTtl resource s) := by
  obtain ⟨now, ok, call⟩ := c
  cases call with
  | setTtl other ttlSeconds =>
    by_cases same : other = resource
    · subst same
      simp [State.perform, setTtl, getTtl, Call.asks, AList.lookup_insert]
    · simp [State.perform, setTtl, getTtl, Call.asks, same, AList.lookup_insert_ne (Ne.symm same)]
  | set other value =>
    rw [getTtl, State.perform, (cacheSet_touches _ now json other value s).ttls]
    rfl
  | get other =>
    rw [getTtl, State.perform, (cacheGet_touches ok now other s).ttls]
    rfl
  | invalidate other =>
    rw [getTtl, State.perform, (cacheInvalidate_touches ok other s).ttls]
    rfl

/-- The stores of the memory backend keep their lifetimes, -/
theorem perform_keeps_lifetime (memory : isRedis s = false) (c : TimedCall β) :
    (s.perform json c).lifetime resource = s.lifetime resource := by
  unfold State.perform
  split
  · cases backend : s.backend with
    | none => simp [State.lifetime, setTtl, backend]
    | some b =>
      cases b with
      | memory stores => simp [State.lifetime, setTtl, backend]
      | redis client server => simp [isRedis, backend] at memory
  · exact cacheSet_lifetime ..
  · exact cacheGet_lifetime ..
  · exact cacheInvalidate_lifetime ..

/-- whereas Redis stores with the lifetime that is asked for at the moment. -/
theorem lifetime_redis (redis : isRedis s = true) : s.lifetime resource = some (seconds (getTtl resource s)) := by
  unfold isRedis at redis
  split at redis
  · rename_i backend
    simp only [State.lifetime, backend, getTtl]
  · contradiction

theorem perform_keeps_seen {c : TimedCall β} (kept : c.call.replaces resource = false) {t : Int} (later : c.now ≤ t) :
    (s.perform json c).seen resource t = s.seen resource t := by
  unfold State.perform
  split
  · rfl
  · rename_i other value call
    have apart : resource ≠ other := by
      rintro rfl
      simp [call, Call.replaces] at kept
    exact (cacheSet_touches _ _ _ _ _ _).seen_other apart _
  · exact cacheGet_seen _ _ _ _ _ later
  · rename_i other call
    have apart : resource ≠ other := by
      rintro rfl
      simp [call, Call.replaces] at kept
    exact (cacheInvalidate_touches _ _ _).seen_other apart _

theorem reports_getTtl {d : Int} (reported : (getCacheStatus s).Reports resource d) : d = getTtl resource s := by
  rcases reported with listed | ⟨resources, entry, shown, found, rfl⟩
  · have held : s.ttls.lookup resource = some d := listed
    rw [getTtl, held, Option.getD_some]
  · simp only [getCacheStatus] at shown
    split at shown
    · rename_i stores backend
      cases shown
      rw [AList.lookup_to_alist] at found
      obtain ⟨e, member, same⟩ := List.mem_map.mp (List.of_mem_dlookup found)
      cases same
      rfl
    · contradiction

end Steps

section Runs
variable {β : Type} {json : β → β} {s : State β Int} {resource : String} {calls : List (TimedCall β)}

theorem calls_append (earlier later : List (TimedCall β)) :
    s.after json (earlier ++ later) = (s.after json earlier).after json later := List.foldl_append

theorem calls_concat (calls : List (TimedCall β)) (c : TimedCall β) :
    s.after json (calls ++ [c]) = (s.after json calls).perform json c := by
  rw [calls_append]
  rfl

theorem after_kind (ok : Bool) : (s.after json calls).reaches ok = s.reaches ok := by
  induction calls generalizing s with
  | nil => rfl
  | cons c calls ih =>
    have first : (s.perform json c).reaches ok = s.reaches ok := perform_reaches_kind c ok
    rw [← first]
    exact ih

theorem after_isRedis : isRedis (s.after json calls) = isRedis s := by
  rw [isRedis_eq, isRedis_eq, after_kind]

theorem after_form (value : β) : (s.after json calls).form json value = s.form json value := by
  rw [form_eq, form_eq, after_kind]

/-- What was asked for last stays asked for. -/
theorem after_getTtl (silent : ∀ c ∈ calls, c.call.asks resource = none) :
    getTtl resource (s.after json calls) = getTtl resource s := by
  induction calls generalizing s with
  | nil => rfl
  | cons c calls ih =>
    have first : getTtl resource (s.perform json c) = getTtl resource s := by
      rw [perform_getTtl, silent c (.head _), Option.getD_none]
    rw [← first]
    exact ih (fun c member => silent c (List.mem_cons_of_mem _ member))

/-- If nothing else is ever asked for, DEFAULT_TTLS stays as it is. -/
theorem after_getTtl_same {d : Int} (begun : getTtl resource s = d)
    (same : ∀ c ∈ calls, ∀ asked, c.call.asks resource = some asked → asked = d) :
    getTtl resource (s.after json calls) = d := by
  induction calls generalizing s with
  | nil => exact begun
  | cons c calls ih =>
    have first : getTtl resource (s.perform json c) = d := by
      rw [perform_getTtl, begun]
      cases asks : c.call.asks resource with
      | none => rfl
      | some asked => exact same c (.head _) asked asks
    exact ih first (fun c member => same c (List.mem_cons_of_mem _ member))

theorem after_lifetime_memory (memory : isRedis s = false) :
    (s.after json calls).lifetime resource = s.lifetime resource := by
  induction calls generalizing s with
  | nil => rfl
  | cons c calls ih =>
    have kind : isRedis (s.perform json c) = false := by rw [isRedis_eq, perform_reaches_kind, ← isRedis_eq, memory]
    have rest := ih kind
    rw [perform_keeps_lifetime memory] at rest
    exact rest

/-- What is seen stays to be seen until something replaces it. -/
theorem after_seen (kept : ∀ c ∈ calls, c.call.replaces resource = false) {t : Int} (later : ∀ c ∈ calls, c.now ≤ t) :
    (s.after json calls).seen resource t = s.seen resource t := by
  induction calls generalizing s with
  | nil => rfl
  | cons c calls ih =>
    have first : (s.perform json c).seen resource t = s.seen resource t :=
      perform_keeps_seen (kept c (.head _)) (later c (.head _))
    rw [← first]
    exact ih (fun c member => kept c (List.mem_cons_of_mem _ member))
      (fun c member => later c (List.mem_cons_of_mem _ member))

/-- An entry lives as long as its resource's lifetime was when it was stored. -/
theorem stored_entry_lives {earlier since : List (TimedCall β)} {writing : TimedCall β} {value : β} {lifetime : Int}
    (parts : calls = earlier ++ writing :: since) (writes : writing.call = .set resource value)
    (accepted : (s.after json earlier).accepts resource writing.ok = true)
    (lasts : (s.after json earlier).lifetime resource = some lifetime)
    (kept : ∀ c ∈ since, c.call.replaces resource = false) {t : Int} (later : ∀ c ∈ calls, c.now ≤ t) :
    (cacheGet true t resource (s.after json calls)).1 =
      if t < writing.now + lifetime then some (s.form json value) else none := by
  subst parts
  have after : ∀ c ∈ since, c.now ≤ t := fun c member => later c (by simp [member])
  have whole : s.after json (earlier ++ writing :: since) = ((s.after json earlier).perform json writing).after json since := by
    rw [calls_append]
    rfl
  have written : (s.after json earlier).perform json writing =
      cacheSet true writing.now json resource value (s.after json earlier) := by
    simp only [State.perform, writes, accepted]
  rw [cacheGet_returns, whole, after_seen kept after, written, cacheSet_seen_self (reaches_true _) lasts, after_form]

/-- The status reports the lifetime of new entries if the backend looks it up where the status does. -/
theorem reports_of_lifetime (agree : ∀ x : Resource, s.lifetime x.name = some (seconds (getTtl x.name s))) :
    ReportsLifetimes json s := by
  intro x d reported ok accepted now value
  rw [reports_getTtl reported]
  exact cacheSet_stores (reaches_of_accepts accepted) (agree x) now json value

end Runs

section Outcomes
variable {α : Type} (dump : α → α) (c : Configured (List α))

theorem state_isRedis : isRedis c.state = c.redis.isSome := by
  unfold Configured.state initCacheBackend
  split
  · rename_i given
    rw [given]
    rfl
  · rename_i given
    rw [given]
    rfl

theorem state_ttls : c.state.ttls = c.ttls := by
  unfold Configured.state initCacheBackend
  split <;> rfl

theorem lookup_ttls (x : Resource) : c.ttls.lookup x.name = some (c.ttl x) := by
  obtain ⟨d, found⟩ := Option.isSome_iff_exists.mp (AList.lookup_isSome.mpr (c.complete x))
  rw [Configured.ttl, getTtl, state_ttls, found, Option.getD_some]

/-- The stores of the memory backend are built with the lifetimes of that moment. -/
theorem state_lifetime (x : Resource) : c.state.lifetime x.name = some (seconds (c.ttl x)) := by
  cases redis : c.redis with
  | some server =>
    have kind : isRedis c.state = true := by rw [state_isRedis, redis]; rfl
    exact lifetime_redis kind
  | none =>
    have backend : c.state.backend = some (memoryCacheBackend c.ttls) := by
      simp only [Configured.state, initCacheBackend, redis]
    have store : (List.toAList (c.ttls.entries.map (fun e => (⟨e.1, ⟨seconds e.2, e.1, ∅⟩⟩ :
        (_ : String) × TTLCache (List α) Int)))).lookup x.name = some ⟨seconds (c.ttl x), x.name, ∅⟩ := by
      have each := List.dlookup_map₂ (l := c.ttls.entries)
        (f := fun name ttl => (⟨seconds ttl, name, ∅⟩ : TTLCache (List α) Int)) x.name
      rw [AList.lookup_to_alist]
      exact each.trans (congrArg (Option.map _) (lookup_ttls c x))
    simp only [State.lifetime, backend, memoryCacheBackend, store, Option.map_some]

section Lifetimes
variable {dump c} {calls : List (TimedCall (List α))}

theorem memory_lifetime (memory : c.redis.isSome = false) (x : Resource) :
    (c.state.after (List.map dump) calls).lifetime x.name = some (seconds (c.ttl x)) := by
  rw [after_lifetime_memory (by rw [state_isRedis, memory]), state_lifetime]

/-- With the memory backend the status is right after a `set_ttl` only if that has changed nothing. -/
theorem unchanged_of_reports (memory : c.redis.isSome = false) {x : Resource} {d : Int}
    (listed : (c.state.after (List.map dump) calls).ttls.lookup x.name = some d)
    (right : ReportsLifetimes (List.map dump) (c.state.after (List.map dump) calls)) : d = c.ttl x := by
  have kind : isRedis (c.state.after (List.map dump) calls) = false := by rw [after_isRedis, state_isRedis, memory]
  have accepted : (c.state.after (List.map dump) calls).accepts x.name true = true := by
    simp [State.accepts, kind, reaches_true]
  have reported := right x d (.inl listed) true accepted 0 []
  rw [cacheSet_stores (reaches_true _) (memory_lifetime memory x)] at reported
  have same : (0 : Int) + seconds (c.ttl x) = 0 + seconds d := congrArg Entry.expiresAt (Option.some.inj reported)
  simp only [seconds] at same
  omega

/-- Entries are stored with the lifetime in DEFAULT_TTLS, with Redis or if nothing else was ever
asked for. -/
theorem lifetime_as_asked (condition : c.redis.isSome = true ∨
      ∀ call ∈ calls, ∀ (x : Resource) d, call.call = .setTtl x.name d → d = c.ttl x) (x : Resource) :
    (c.state.after (List.map dump) calls).lifetime x.name =
      some (seconds (getTtl x.name (c.state.after (List.map dump) calls))) := by
  cases redis : c.redis.isSome with
  | true =>
    apply lifetime_redis
    rw [after_isRedis, state_isRedis, redis]
  | false =>
    have same : ∀ call ∈ calls, ∀ d, call.call.asks x.name = some d → d = c.ttl x := by
      intro call member d asks
      rcases condition with other | unchanged
      · rw [redis] at other
        contradiction
      · exact unchanged call member x d (asks_eq.mp asks)
    rw [memory_lifetime redis, after_getTtl_same rfl same]
    rfl

end Lifetimes

/-- With Redis `set_ttl` takes effect on all entries that are stored from then on, and the status
reports what it has asked for. With the memory backend this holds exactly if it never asks for
anything but the lifetimes that the stores were built with. -/
theorem set_ttl_takes_effect_iff (calls : List (TimedCall (List α))) :
    (∀ reached, reached <+: calls → LivesAsAsked (List.map dump) c.state reached ∧
      ReportsLifetimes (List.map dump) (c.state.after (List.map dump) reached)) ↔
    c.redis.isSome = true ∨
      ∀ call ∈ calls, ∀ (x : Resource) d, call.call = .setTtl x.name d → d = c.ttl x := by
  constructor
  · intro right
    cases redis : c.redis.isSome with
    | true => exact .inl rfl
    | false =>
      refine .inr (fun call member x d asks => ?_)
      obtain ⟨earlier, later, rfl⟩ := List.append_of_mem member
      have reached : earlier ++ [call] <+: earlier ++ call :: later := ⟨later, by simp⟩
      have last : c.state.after (List.map dump) (earlier ++ [call]) =
          setTtl x.name d (c.state.after (List.map dump) earlier) := by
        rw [calls_concat, State.perform, asks]
      apply unchanged_of_reports redis _ (right _ reached).2
      rw [last]
      exact AList.lookup_insert _
  · intro condition reached start
    have early : ∀ earlier, earlier <+: reached → c.redis.isSome = true ∨
        ∀ call ∈ earlier, ∀ (x : Resource) d, call.call = .setTtl x.name d → d = c.ttl x := fun earlier inside =>
      condition.imp id (fun unchanged call member => unchanged call ((inside.trans start).subset member))
    refine ⟨?_, reports_of_lifetime (lifetime_as_asked (early reached (List.prefix_refl _)))⟩
    rintro x earlier asking between writing since d value rfl asks silent writes accepted kept t later
    have lasts : (c.state.after (List.map dump) (earlier ++ asking :: between)).lifetime x.name =
        some (seconds (getTtl x.name (c.state.after (List.map dump) (earlier ++ asking :: between)))) :=
      lifetime_as_asked (early (earlier ++ asking :: between) ⟨writing :: since, by simp⟩) x
    have told : getTtl x.name (c.state.after (List.map dump) (earlier ++ asking :: between)) = d := by
      rw [List.append_cons, calls_append, after_getTtl silent, calls_concat, perform_getTtl, asks_eq.mpr asks]
      rfl
    rw [told] at lasts
    exact stored_entry_lives rfl writes accepted lasts kept later

/- The lifetime of lists of servers is raised from five seconds to a minute. A list that is stored
then is gone after six seconds. -/
def defaults : Configured (List Nat) where
  ttls := List.toAList [⟨"servers", 5⟩, ⟨"images", 30⟩, ⟨"networks", 30⟩, ⟨"volumes", 10⟩]
  complete x := by cases x <;> decide
  counters := ⟨∅, ∅, ∅⟩
  redis := none

theorem raised_lifetime_ignored : ¬ ∀ (c : Configured (List Nat)) (calls : List (TimedCall (List Nat))),
    ∀ reached, reached <+: calls → LivesAsAsked (List.map id) c.state reached ∧
      ReportsLifetimes (List.map id) (c.state.after (List.map id) reached) := by
  intro right
  have lives := (right defaults [⟨0, true, .setTtl "servers" 60⟩, ⟨0, true, .set "servers" [1]⟩] _
    (List.prefix_refl _)).1 .servers [] ⟨0, true, .setTtl "servers" 60⟩ [] ⟨0, true, .set "servers" [1]⟩ [] 60 [1]
    rfl rfl (by simp) rfl (by decide) (by simp) (seconds 6) (by decide)
  revert lives
  decide

end Outcomes

end VMachine.Cache
