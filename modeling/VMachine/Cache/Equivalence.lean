import VMachine.Cache.Backend

/-! The memory backend and the Redis backend side by side. What a user can see of either is
what a read would return, now or later, and the counters. The operations are described by
how they change what can be seen; under one sequence of operations the two then differ only
by the form in which Redis returns the elements of a list. -/
namespace VMachine.Cache

/- The resources of DEFAULT_TTLS, in its order. -/
inductive Resource where
  | servers
  | images
  | networks
  | volumes
  deriving Repr, DecidableEq

namespace Resource

def name : Resource → String
  | servers => "servers"
  | images => "images"
  | networks => "networks"
  | volumes => "volumes"

def all : List Resource := [servers, images, networks, volumes]

theorem mem_all (x : Resource) : x ∈ all := by
  cases x <;> decide

theorem name_inj {x y : Resource} (same : x.name = y.name) : x = y := by
  revert same
  cases x <;> cases y <;> decide

end Resource

/- A configuration of DEFAULT_TTLS, in seconds. -/
structure Lifetimes where
  ttl : Resource → Nat
  positive : ∀ x, 0 < ttl x

def Lifetimes.table (lifetimes : Lifetimes) : Table Nat :=
  List.toAList (Resource.all.map (fun x => ⟨x.name, lifetimes.ttl x⟩))

structure Tally where
  hits : Nat
  misses : Nat
  invalidations : Nat
  deriving Repr, DecidableEq

/- The counters of one resource. -/
def Counters.tally (n : Counters) (name : String) : Tally where
  hits := (n.hits.lookup name).getD 0
  misses := (n.misses.lookup name).getD 0
  invalidations := (n.invalidations.lookup name).getD 0

section Tallies

theorem incr_lookup (counter : Table Nat) (name other : String) :
    ((incr counter name).lookup other).getD 0 =
      if other = name then (counter.lookup other).getD 0 + 1 else (counter.lookup other).getD 0 := by
  unfold incr
  by_cases same : other = name
  · subst same
    simp [AList.lookup_insert]
  · simp [AList.lookup_insert_ne same, same]

theorem hit_tally (n : Counters) (name other : String) :
    (n.hit name).tally other =
      if other = name then { n.tally other with hits := (n.tally other).hits + 1 } else n.tally other := by
  simp only [Counters.tally, Counters.hit, incr_lookup]
  split <;> rfl

theorem miss_tally (n : Counters) (name other : String) :
    (n.miss name).tally other =
      if other = name then { n.tally other with misses := (n.tally other).misses + 1 } else n.tally other := by
  simp only [Counters.tally, Counters.miss, incr_lookup]
  split <;> rfl

theorem invalidated_tally (n : Counters) (name other : String) :
    (n.invalidated name).tally other =
      if other = name then { n.tally other with invalidations := (n.tally other).invalidations + 1 }
      else n.tally other := by
  simp only [Counters.tally, Counters.invalidated, incr_lookup]
  split <;> rfl

theorem name_eq_iff (x y : Resource) : y.name = x.name ↔ y = x :=
  ⟨Resource.name_inj, fun same => by rw [same]⟩

/-- How a read is counted. -/
theorem read_tally (n : Counters) (x y : Resource) (found : Bool) :
    (if found = true then n.hit x.name else n.miss x.name).tally y.name =
      if y = x then
        (if found = true then { n.tally y.name with hits := (n.tally y.name).hits + 1 }
          else { n.tally y.name with misses := (n.tally y.name).misses + 1 })
      else n.tally y.name := by
  cases found with
  | true => simp [hit_tally, name_eq_iff]
  | false => simp [miss_tally, name_eq_iff]

end Tallies

section Observations
variable {β : Type}

def Entry.seen {τ : Type} [LE τ] [DecidableLE τ] (e : Entry β τ) (now : τ) : Option β :=
  if e.isExpired now then none else some e.value

/- What a read of the resource at the given time would return. -/
def State.seen {τ : Type} [LE τ] [DecidableLE τ] (s : State β τ) (resource : String) (now : τ) : Option β :=
  (s.peek resource).bind (fun e => e.seen now)

/- The counters of the configured backend. -/
def State.tally {τ : Type} (s : State β τ) (resource : String) : Tally :=
  match s.backend with
  | some (.redis client _) => client.counters.tally resource
  | _ => s.counters.tally resource

/- The backend is one for the four resources with these lifetimes. -/
def State.Serves (lifetimes : Lifetimes) (s : State β) : Prop :=
  match s.backend with
  | none => False
  | some (.memory stores) =>
    (∀ key, key ∈ stores ↔ ∃ x : Resource, key = x.name) ∧
    ∀ x : Resource, ∃ store, stores.lookup x.name = some store ∧ store.name = x.name ∧
      store.ttl = seconds (lifetimes.ttl x)
  | some (.redis _ _) => s.ttls = lifetimes.table

/- `invalidate_all` of either backend: of every store, and of the four resources. -/
def backendInvalidateAll {τ : Type} (ok : Bool) (s : State β τ) : State β τ :=
  match s.backend with
  | none => s
  | some (.memory stores) => stores.keys.foldl (fun s resource => cacheInvalidate ok resource s) s
  | some (.redis _ _) => (Resource.all.map Resource.name).foldl (fun s resource => cacheInvalidate ok resource s) s

theorem Entry.seen_mk {τ : Type} [LinearOrder τ] (value : β) (deadline t : τ) :
    (Entry.mk value deadline).seen t = if t < deadline then some value else none := by
  simp only [Entry.seen, Entry.isExpired, decide_eq_true_eq]
  by_cases early : t < deadline
  · rw [if_neg (not_le.mpr early), if_pos early]
  · rw [if_pos (not_lt.mp early), if_neg early]

theorem Entry.seen_expired {τ : Type} [LinearOrder τ] {e : Entry β τ} {now t : τ} (expired : e.isExpired now = true)
    (later : now ≤ t) : e.seen t = none := by
  have past : e.expiresAt ≤ now := by simpa [Entry.isExpired] using expired
  have still : e.isExpired t = true := by
    simp only [Entry.isExpired, decide_eq_true_eq]
    exact le_trans past later
  rw [Entry.seen, if_pos still]

/-- A read of one store: what it returns, how it is counted, and what it leaves to be seen. -/
theorem TTLCache.get_effect {τ : Type} [LinearOrder τ] (now : τ) (key : String) (c : TTLCache β τ) (n : Counters) :
    (c.get now key n).1 = (c.store.lookup key).bind (fun e => e.seen now) ∧
    (c.get now key n).2.2 =
      (if ((c.store.lookup key).bind (fun e => e.seen now)).isSome then n.hit c.name else n.miss c.name) ∧
    (c.get now key n).2.1.name = c.name ∧ (c.get now key n).2.1.ttl = c.ttl ∧
    ∀ t ≥ now, ((c.get now key n).2.1.store.lookup key).bind (fun e => e.seen t) =
      (c.store.lookup key).bind (fun e => e.seen t) := by
  cases held : c.store.lookup key with
  | none => simp [TTLCache.get, held]
  | some entry =>
    cases expired : entry.isExpired now with
    | true =>
      have gone : ∀ t ≥ now, entry.seen t = none := fun t later => Entry.seen_expired expired later
      have dropped : (c.store.erase key).lookup key = none := AList.lookup_erase ..
      simp only [TTLCache.get, held, expired, if_true, Option.bind_some, gone now (le_refl now),
        Option.isSome_none, Bool.false_eq_true, if_false, dropped, Option.bind_none, true_and]
      intro t later
      exact (gone t later).symm
    | false => simp [TTLCache.get, held, expired, Entry.seen]

theorem RedisCache.get_effect {τ : Type} [LinearOrder τ] (now : τ) (resource : String) (c : RedisCache)
    (server : RedisServer β τ) :
    (c.get true now resource server).1 = (server.lookup (c.key resource)).bind (fun e => e.seen now) ∧
    (c.get true now resource server).2.counters =
      (if ((server.lookup (c.key resource)).bind (fun e => e.seen now)).isSome then c.counters.hit resource
        else c.counters.miss resource) := by
  cases held : server.lookup (c.key resource) with
  | none => simp [RedisCache.get, held]
  | some entry =>
    cases expired : entry.isExpired now with
    | true => simp [RedisCache.get, held, expired, Entry.seen]
    | false => simp [RedisCache.get, held, expired, Entry.seen]

/- The form in which the backend keeps a value. -/
def State.form {τ : Type} (json : β → β) (s : State β τ) (value : β) : β :=
  match s.backend with
  | some (.redis _ _) => json value
  | _ => value

theorem reaches_true {τ : Type} (s : State β τ) : s.reaches true = true := by
  unfold State.reaches
  split <;> rfl

section Seen
variable {τ : Type} [LinearOrder τ]

theorem seen_memory {s : State β τ} {stores : Table (TTLCache β τ)} (backend : s.backend = some (.memory stores))
    (resource : String) (t : τ) : s.seen resource t =
      ((stores.lookup resource).bind (fun store => store.store.lookup resource)).bind (fun e => e.seen t) := by
  simp only [State.seen, State.peek, backend, Option.bind_some, Backend.peek]

theorem seen_memory_insert {ttls : Table τ} {counters : Counters} {stores : Table (TTLCache β τ)} {store : TTLCache β τ}
    (resource other : String) (t : τ) :
    (State.mk ttls counters (some (.memory (stores.insert resource store)))).seen other t =
      if other = resource then (store.store.lookup resource).bind (fun e => e.seen t)
      else ((stores.lookup other).bind (fun store => store.store.lookup other)).bind (fun e => e.seen t) := by
  simp only [State.seen, State.peek, Option.bind_some, peek_memory_insert]
  by_cases same : other = resource
  · subst same
    simp
  · rw [if_neg same, if_neg same]
    rfl

theorem seen_redis {s : State β τ} {client : RedisCache} {server : RedisServer β τ}
    (backend : s.backend = some (.redis client server)) (resource : String) (t : τ) :
    s.seen resource t = (server.lookup (client.key resource)).bind (fun e => e.seen t) := by
  simp only [State.seen, State.peek, backend, Option.bind_some, Backend.peek]

/-- A call on one resource changes nothing to be seen of another. -/
theorem Touches.seen_other {resource other : String} {s t : State β τ} (touches : Touches resource s t)
    (apart : other ≠ resource) (u : τ) : t.seen other u = s.seen other u := by
  rw [State.seen, touches.peek_other apart, State.seen]

/-- A read that reaches the backend returns what is to be seen. -/
theorem cacheGet_returns (now : τ) (resource : String) (s : State β τ) :
    (cacheGet true now resource s).1 = s.seen resource now := by
  cases backend : s.backend with
  | none => simp only [cacheGet, backend, State.seen, State.peek, Option.bind_none]
  | some b =>
    cases b with
    | memory stores =>
      rw [seen_memory backend]
      cases known : stores.lookup resource with
      | none => simp only [cacheGet, backend, known, Option.bind_none]
      | some store =>
        simp only [cacheGet, backend, known, Option.bind_some]
        exact (store.get_effect now resource s.counters).1
    | redis client server =>
      rw [seen_redis backend]
      simp only [cacheGet, backend]
      exact (client.get_effect now resource server).1

/-- A read hides nothing that would be seen later. -/
theorem cacheGet_seen (ok : Bool) (now : τ) (resource other : String) (s : State β τ) {t : τ} (later : now ≤ t) :
    (cacheGet ok now resource s).2.seen other t = s.seen other t := by
  by_cases same : other = resource
  · subst same
    cases backend : s.backend with
    | none => simp only [cacheGet, backend]
    | some b =>
      cases b with
      | memory stores =>
        cases known : stores.lookup other with
        | none => simp only [cacheGet, backend, known]
        | some store =>
          simp only [cacheGet, backend, known]
          rw [seen_memory_insert, if_pos rfl, seen_memory backend, known, Option.bind_some,
            (store.get_effect now other s.counters).2.2.2.2 t later]
      | redis client server =>
        simp only [cacheGet, backend]
        rw [seen_redis rfl, seen_redis backend, RedisCache.get_key]
  · exact (cacheGet_touches ok now resource s).seen_other same t

/-- An invalidation that reaches the backend leaves nothing to be seen of its resource. -/
theorem cacheInvalidate_seen_self {s : State β τ} {ok : Bool} (reached : s.reaches ok = true) (resource : String)
    (t : τ) : (cacheInvalidate ok resource s).seen resource t = none := by
  rw [State.seen, cacheInvalidate_gone reached, Option.bind_none]

variable [Add τ] [Mul τ] [OfNat τ 30] [OfNat τ 1000000000]

omit [LinearOrder τ] in
/-- A write stores the value, in the form of the backend, with the lifetime of the resource. -/
theorem cacheSet_stores {s : State β τ} {ok : Bool} (reached : s.reaches ok = true) {resource : String} {lifetime : τ}
    (lasts : s.lifetime resource = some lifetime) (now : τ) (json : β → β) (value : β) :
    (cacheSet ok now json resource value s).peek resource = some ⟨s.form json value, now + lifetime⟩ := by
  cases backend : s.backend with
  | none => simp [State.lifetime, backend] at lasts
  | some b =>
    cases b with
    | memory stores =>
      cases known : stores.lookup resource with
      | none => simp [State.lifetime, backend, known] at lasts
      | some store =>
        have ttl : store.ttl = lifetime := by simpa [State.lifetime, backend, known] using lasts
        simp [cacheSet, backend, known, State.peek, peek_memory_insert, TTLCache.set, TTLCache.setTtl,
          AList.lookup_insert, State.form, ttl]
    | redis client server =>
      have sent : ok = true := by simpa [State.reaches, backend] using reached
      have ttl : seconds ((s.ttls.lookup resource).getD 30) = lifetime := by
        simpa [State.lifetime, backend] using lasts
      simp [cacheSet, backend, sent, RedisCache.set, State.peek, Backend.peek, AList.lookup_insert, State.form, ttl]

/-- It is seen until its lifetime is over. -/
theorem cacheSet_seen_self {s : State β τ} {ok : Bool} (reached : s.reaches ok = true) {resource : String} {lifetime : τ}
    (lasts : s.lifetime resource = some lifetime) (now : τ) (json : β → β) (value : β) (t : τ) :
    (cacheSet ok now json resource value s).seen resource t =
      if t < now + lifetime then some (s.form json value) else none := by
  rw [State.seen, cacheSet_stores reached lasts, Option.bind_some, Entry.seen_mk]

end Seen

section Effects
variable {lifetimes : Lifetimes} {s : State β} (serves : s.Serves lifetimes)

/-- The two ways to be set up. -/
theorem serves_cases (serves : s.Serves lifetimes) :
    (∃ stores, s.backend = some (.memory stores) ∧ (∀ key, key ∈ stores ↔ ∃ x : Resource, key = x.name) ∧
      ∀ x : Resource, ∃ store, stores.lookup x.name = some store ∧ store.name = x.name ∧
        store.ttl = seconds (lifetimes.ttl x)) ∨
    (∃ client server, s.backend = some (.redis client server) ∧ s.ttls = lifetimes.table) := by
  unfold State.Serves at serves
  cases backend : s.backend with
  | none => simp [backend] at serves
  | some b =>
    cases b with
    | memory stores =>
      simp only [backend] at serves
      exact .inl ⟨stores, rfl, serves⟩
    | redis client server =>
      simp only [backend] at serves
      exact .inr ⟨client, server, rfl, serves⟩

/-- A store that is put back in its place with its name and lifetime keeps the backend set up. -/
theorem serves_insert {ttls : Table Nat} {counters : Counters} {stores : Table (TTLCache β)} {store : TTLCache β}
    (keys : ∀ key, key ∈ stores ↔ ∃ x : Resource, key = x.name)
    (each : ∀ x : Resource, ∃ store, stores.lookup x.name = some store ∧ store.name = x.name ∧
      store.ttl = seconds (lifetimes.ttl x))
    (x : Resource) (named : store.name = x.name) (lasts : store.ttl = seconds (lifetimes.ttl x)) :
    (State.mk ttls counters (some (.memory (stores.insert x.name store)))).Serves lifetimes := by
  refine ⟨?_, ?_⟩
  · intro key
    rw [AList.mem_insert, keys]
    constructor
    · rintro (rfl | known)
      · exact ⟨x, rfl⟩
      · exact known
    · exact .inr
  · intro y
    by_cases same : y = x
    · subst same
      exact ⟨store, AList.lookup_insert _, named, lasts⟩
    · have other : y.name ≠ x.name := fun names => same (Resource.name_inj names)
      rw [AList.lookup_insert_ne other]
      exact each y

include serves

omit serves in
theorem State.Serves.lifetime (serves : s.Serves lifetimes) (x : Resource) :
    s.lifetime x.name = some (seconds (lifetimes.ttl x)) := by
  obtain ⟨stores, backend, _, each⟩ | ⟨client, server, backend, ttls⟩ := serves_cases serves
  · obtain ⟨store, found, _, lasts⟩ := each x
    simp only [State.lifetime, backend, found, Option.map_some, lasts]
  · have requested : s.ttls.lookup x.name = some (lifetimes.ttl x) := by
      rw [ttls]
      cases x <;> rfl
    simp only [State.lifetime, backend, requested, Option.getD_some]

/-- A read returns what is seen, hides nothing that will be seen later, and is counted. -/
theorem cacheGet_effect (x : Resource) (now : Nat) :
    (cacheGet true now x.name s).1 = s.seen x.name now ∧
    (cacheGet true now x.name s).2.Serves lifetimes ∧
    (∀ y : Resource, ∀ t ≥ now, (cacheGet true now x.name s).2.seen y.name t = s.seen y.name t) ∧
    ∀ y : Resource, (cacheGet true now x.name s).2.tally y.name =
      if y = x then
        (if (s.seen x.name now).isSome then { s.tally y.name with hits := (s.tally y.name).hits + 1 }
          else { s.tally y.name with misses := (s.tally y.name).misses + 1 })
      else s.tally y.name := by
  refine ⟨cacheGet_returns now x.name s, ?_, fun y t later => cacheGet_seen true now x.name y.name s later, ?_⟩
  · obtain ⟨stores, backend, keys, each⟩ | ⟨client, server, backend, ttls⟩ := serves_cases serves
    · obtain ⟨store, found, named, lasts⟩ := each x
      obtain ⟨_, _, name, ttl, _⟩ := TTLCache.get_effect now x.name store s.counters
      simp only [cacheGet, backend, found]
      exact serves_insert keys each x (name.trans named) (ttl.trans lasts)
    · simp only [cacheGet, backend]
      exact ttls
  · intro y
    obtain ⟨stores, backend, keys, each⟩ | ⟨client, server, backend, ttls⟩ := serves_cases serves
    · obtain ⟨store, found, named, lasts⟩ := each x
      obtain ⟨_, counts, _, _, _⟩ := TTLCache.get_effect now x.name store s.counters
      have sees : s.seen x.name now = (store.store.lookup x.name).bind (fun e => e.seen now) := by
        rw [seen_memory backend, found, Option.bind_some]
      simp only [cacheGet, State.tally, backend, found, counts, named, ← sees]
      exact read_tally s.counters x y _
    · obtain ⟨_, counts⟩ := RedisCache.get_effect now x.name client server
      have sees := seen_redis backend x.name now
      simp only [cacheGet, State.tally, backend, counts, ← sees]
      exact read_tally client.counters x y _

/-- A write is seen until its lifetime is over, in the form of the backend. -/
theorem cacheSet_effect (x : Resource) (now : Nat) (json : β → β) (value : β) :
    (cacheSet true now json x.name value s).Serves lifetimes ∧
    (∀ (y : Resource) t, (cacheSet true now json x.name value s).seen y.name t =
      if y = x then (if t < now + seconds (lifetimes.ttl x) then some (s.form json value) else none)
      else s.seen y.name t) ∧
    ∀ y : Resource, (cacheSet true now json x.name value s).tally y.name = s.tally y.name := by
  refine ⟨?_, ?_, ?_⟩
  · obtain ⟨stores, backend, keys, each⟩ | ⟨client, server, backend, ttls⟩ := serves_cases serves
    · obtain ⟨store, found, named, lasts⟩ := each x
      simp only [cacheSet, backend, found]
      exact serves_insert keys each x named lasts
    · simp only [cacheSet, backend]
      exact ttls
  · intro y t
    by_cases same : y = x
    · subst same
      rw [if_pos rfl]
      exact cacheSet_seen_self (reaches_true s) (serves.lifetime y) now json value t
    · have apart : y.name ≠ x.name := fun names => same (Resource.name_inj names)
      rw [if_neg same]
      exact (cacheSet_touches true now json x.name value s).seen_other apart t
  · intro y
    obtain ⟨stores, backend, keys, each⟩ | ⟨client, server, backend, ttls⟩ := serves_cases serves
    · obtain ⟨store, found, named, lasts⟩ := each x
      simp only [cacheSet, State.tally, backend, found]
    · simp only [cacheSet, RedisCache.set, if_true, State.tally, backend]

/-- An invalidation leaves nothing to be seen of its resource, and is counted. -/
theorem cacheInvalidate_effect (x : Resource) :
    (cacheInvalidate true x.name s).Serves lifetimes ∧
    (∀ (y : Resource) t, (cacheInvalidate true x.name s).seen y.name t =
      if y = x then none else s.seen y.name t) ∧
    ∀ y : Resource, (cacheInvalidate true x.name s).tally y.name =
      if y = x then { s.tally y.name with invalidations := (s.tally y.name).invalidations + 1 }
      else s.tally y.name := by
  refine ⟨?_, ?_, ?_⟩
  · obtain ⟨stores, backend, keys, each⟩ | ⟨client, server, backend, ttls⟩ := serves_cases serves
    · obtain ⟨store, found, named, lasts⟩ := each x
      simp only [cacheInvalidate, backend, found, TTLCache.invalidateAll]
      exact serves_insert keys each x named lasts
    · simp only [cacheInvalidate, backend]
      exact ttls
  · intro y t
    by_cases same : y = x
    · subst same
      rw [if_pos rfl]
      exact cacheInvalidate_seen_self (reaches_true s) y.name t
    · have apart : y.name ≠ x.name := fun names => same (Resource.name_inj names)
      rw [if_neg same]
      exact (cacheInvalidate_touches true x.name s).seen_other apart t
  · intro y
    obtain ⟨stores, backend, keys, each⟩ | ⟨client, server, backend, ttls⟩ := serves_cases serves
    · obtain ⟨store, found, named, lasts⟩ := each x
      simp only [cacheInvalidate, backend, found, TTLCache.invalidateAll, named, State.tally, invalidated_tally,
        name_eq_iff]
    · simp only [cacheInvalidate, backend, RedisCache.invalidate, if_true, State.tally, invalidated_tally, name_eq_iff]

omit serves in
/-- Invalidating several resources, each of them once. -/
theorem invalidate_each (names : List String) (s : State β) (serves : s.Serves lifetimes) (distinct : names.Nodup)
    (known : ∀ name ∈ names, ∃ x : Resource, name = x.name) :
    (names.foldl (fun s resource => cacheInvalidate true resource s) s).Serves lifetimes ∧
    (∀ (y : Resource) t, (names.foldl (fun s resource => cacheInvalidate true resource s) s).seen y.name t =
      if y.name ∈ names then none else s.seen y.name t) ∧
    ∀ y : Resource, (names.foldl (fun s resource => cacheInvalidate true resource s) s).tally y.name =
      if y.name ∈ names then { s.tally y.name with invalidations := (s.tally y.name).invalidations + 1 }
      else s.tally y.name := by
  induction names generalizing s with
  | nil => exact ⟨serves, fun _ _ => rfl, fun _ => rfl⟩
  | cons name names ih =>
    obtain ⟨x, rfl⟩ := known name (by simp)
    obtain ⟨absent, distinct⟩ := List.nodup_cons.mp distinct
    obtain ⟨set, seen, tally⟩ := cacheInvalidate_effect serves x
    obtain ⟨set', seen', tally'⟩ := ih (cacheInvalidate true x.name s) set distinct
      (fun name listed => known name (List.mem_cons_of_mem _ listed))
    refine ⟨set', ?_, ?_⟩
    · intro y t
      rw [List.foldl_cons, seen' y t, seen y t]
      simp only [List.mem_cons, name_eq_iff]
      by_cases same : y = x
      · simp [same]
      · simp [same]
    · intro y
      rw [List.foldl_cons, tally' y, tally y]
      simp only [List.mem_cons, name_eq_iff]
      by_cases same : y = x
      · subst same
        simp [absent]
      · simp [same]

/-- Invalidating all leaves nothing to be seen, and counts once for each resource. -/
theorem backendInvalidateAll_effect :
    (backendInvalidateAll true s).Serves lifetimes ∧
    (∀ (y : Resource) t, (backendInvalidateAll true s).seen y.name t = none) ∧
    ∀ y : Resource, (backendInvalidateAll true s).tally y.name =
      { s.tally y.name with invalidations := (s.tally y.name).invalidations + 1 } := by
  have listed : ∃ names : List String, names.Nodup ∧ (∀ name, name ∈ names ↔ ∃ x : Resource, name = x.name) ∧
      backendInvalidateAll true s = names.foldl (fun s resource => cacheInvalidate true resource s) s := by
    obtain ⟨stores, backend, keys, _⟩ | ⟨client, server, backend, _⟩ := serves_cases serves
    · refine ⟨stores.keys, AList.keys_nodup stores, fun name => ?_, by simp only [backendInvalidateAll, backend]⟩
      rw [← keys]
      exact AList.mem_keys.symm
    · refine ⟨Resource.all.map Resource.name, by decide, fun name => ?_, by simp only [backendInvalidateAll, backend]⟩
      rw [List.mem_map]
      constructor
      · rintro ⟨x, _, rfl⟩
        exact ⟨x, rfl⟩
      · rintro ⟨x, rfl⟩
        exact ⟨x, x.mem_all, rfl⟩
  obtain ⟨names, distinct, known, result⟩ := listed
  obtain ⟨set, seen, tally⟩ := invalidate_each names s serves distinct (fun name listed => (known name).mp listed)
  have each : ∀ y : Resource, y.name ∈ names := fun y => (known y.name).mpr ⟨y, rfl⟩
  rw [result]
  refine ⟨set, ?_, ?_⟩
  · intro y t
    rw [seen y t, if_pos (each y)]
  · intro y
    rw [tally y, if_pos (each y)]

end Effects

end Observations

/- The operations of a backend. -/
inductive Op (α : Type) where
  | get (x : Resource)
  | set (x : Resource) (value : List α)
  | invalidate (x : Resource)
  | invalidateAll

/- What an operation returns, and the counters of each resource after it. -/
structure Observation (α : Type) where
  found : Option (List α)
  tally : Resource → Tally

/- What Redis returns for a list: each element as its `model_dump`. -/
def Observation.dumped {α : Type} (dump : α → α) (o : Observation α) : Observation α :=
  { o with found := o.found.map (List.map dump) }

section Traces
variable {α : Type} (dump : α → α)

/- One operation at the given time. No command to Redis fails. -/
def perform (now : Nat) (s : State (List α)) : Op α → Option (List α) × State (List α)
  | .get x => cacheGet true now x.name s
  | .set x value => (none, cacheSet true now (List.map dump) x.name value s)
  | .invalidate x => (none, cacheInvalidate true x.name s)
  | .invalidateAll => (none, backendInvalidateAll true s)

/- What can be observed of a sequence of operations, step by step. -/
def trace (s : State (List α)) : List (Nat × Op α) → List (Observation α)
  | [] => []
  | (now, op) :: rest =>
    ⟨(perform dump now s op).1, fun x => (perform dump now s op).2.tally x.name⟩ ::
      trace (perform dump now s op).2 rest

/- A new MemoryCacheBackend, and a new RedisCache on an empty server. -/
def memoryCache (lifetimes : Lifetimes) : State (List α) :=
  ⟨lifetimes.table, ⟨∅, ∅, ∅⟩, some (memoryCacheBackend lifetimes.table)⟩

def redisCache (lifetimes : Lifetimes) (project : String) : State (List α) :=
  ⟨lifetimes.table, ⟨∅, ∅, ∅⟩, some (.redis ⟨project, ⟨∅, ∅, ∅⟩, 0⟩ ∅)⟩

section Kinds
variable {β τ : Type} (ok : Bool) (now : τ) (resource : String) (s : State β τ) (sent : Bool)

/-- No operation changes the kind of the backend. -/
theorem cacheGet_reaches [LE τ] [DecidableLE τ] : (cacheGet sent now resource s).2.reaches ok = s.reaches ok :=
  (cacheGet_touches sent now resource s).reaches ok

theorem cacheSet_reaches [Add τ] [Mul τ] [OfNat τ 30] [OfNat τ 1000000000] (json : β → β) (value : β) :
    (cacheSet sent now json resource value s).reaches ok = s.reaches ok :=
  (cacheSet_touches sent now json resource value s).reaches ok

theorem invalidate_each_reaches (names : List String) :
    (names.foldl (fun s resource => cacheInvalidate sent resource s) s).reaches ok = s.reaches ok := by
  induction names generalizing s with
  | nil => rfl
  | cons name names ih =>
    rw [List.foldl_cons, ih]
    exact cacheInvalidate_reaches sent name s ok

theorem backendInvalidateAll_reaches : (backendInvalidateAll sent s).reaches ok = s.reaches ok := by
  unfold backendInvalidateAll
  split
  · rfl
  · exact invalidate_each_reaches ok s sent _
  · exact invalidate_each_reaches ok s sent _

theorem form_eq (json : β → β) (value : β) :
    s.form json value = if s.reaches false = true then value else json value := by
  unfold State.form State.reaches
  cases s.backend with
  | none => rfl
  | some b => cases b <;> rfl

end Kinds

theorem perform_reaches (now : Nat) (s : State (List α)) (op : Op α) (ok : Bool) :
    (perform dump now s op).2.reaches ok = s.reaches ok := by
  cases op with
  | get x => exact cacheGet_reaches ok now x.name s true
  | set x value => exact cacheSet_reaches ok now x.name s true (List.map dump) value
  | invalidate x => exact cacheInvalidate_reaches true x.name s ok
  | invalidateAll => exact backendInvalidateAll_reaches ok s true

/- From now on, what is seen of the two differs by the form of the elements, and their
counters are equal. -/
structure Alike (lifetimes : Lifetimes) (now : Nat) (m r : State (List α)) : Prop where
  memory : m.Serves lifetimes ∧ m.reaches false = true
  redis : r.Serves lifetimes ∧ r.reaches false = false
  seen : ∀ x : Resource, ∀ t ≥ now, r.seen x.name t = (m.seen x.name t).map (List.map dump)
  tally : ∀ x : Resource, r.tally x.name = m.tally x.name

theorem perform_alike {lifetimes : Lifetimes} {before now : Nat} {m r : State (List α)}
    (alike : Alike dump lifetimes before m r) (later : before ≤ now) (op : Op α) :
    (perform dump now r op).1 = (perform dump now m op).1.map (List.map dump) ∧
    Alike dump lifetimes now (perform dump now m op).2 (perform dump now r op).2 := by
  obtain ⟨⟨servesM, memory⟩, ⟨servesR, redis⟩, seen, tally⟩ := alike
  have kindM := (perform_reaches dump now m op false).trans memory
  have kindR := (perform_reaches dump now r op false).trans redis
  cases op with
  | get x =>
    obtain ⟨foundM, setM, seenM, tallyM⟩ := cacheGet_effect servesM x now
    obtain ⟨foundR, setR, seenR, tallyR⟩ := cacheGet_effect servesR x now
    have same := seen x now later
    refine ⟨?_, ⟨setM, kindM⟩, ⟨setR, kindR⟩, ?_, ?_⟩
    · change (cacheGet true now x.name r).1 = ((cacheGet true now x.name m).1).map _
      rw [foundM, foundR, same]
    · intro y t after
      change (cacheGet true now x.name r).2.seen y.name t = ((cacheGet true now x.name m).2.seen y.name t).map _
      rw [seenM y t after, seenR y t after]
      exact seen y t (Nat.le_trans later after)
    · intro y
      change (cacheGet true now x.name r).2.tally y.name = (cacheGet true now x.name m).2.tally y.name
      rw [tallyM y, tallyR y, tally y, same, Option.isSome_map]
  | set x value =>
    obtain ⟨setM, seenM, tallyM⟩ := cacheSet_effect servesM x now (List.map dump) value
    obtain ⟨setR, seenR, tallyR⟩ := cacheSet_effect servesR x now (List.map dump) value
    have formM : m.form (List.map dump) value = value := by rw [form_eq, memory, if_pos rfl]
    have formR : r.form (List.map dump) value = value.map dump := by rw [form_eq, redis, if_neg Bool.false_ne_true]
    refine ⟨rfl, ⟨setM, kindM⟩, ⟨setR, kindR⟩, ?_, ?_⟩
    · intro y t after
      refine (seenR y t).trans (Eq.trans ?_ (congrArg (Option.map (List.map dump)) (seenM y t)).symm)
      rw [formM, formR]
      by_cases same : y = x
      · rw [if_pos same, if_pos same]
        split <;> rfl
      · rw [if_neg same, if_neg same]
        exact seen y t (Nat.le_trans later after)
    · intro y
      exact (tallyR y).trans ((tally y).trans (tallyM y).symm)
  | invalidate x =>
    obtain ⟨setM, seenM, tallyM⟩ := cacheInvalidate_effect servesM x
    obtain ⟨setR, seenR, tallyR⟩ := cacheInvalidate_effect servesR x
    refine ⟨rfl, ⟨setM, kindM⟩, ⟨setR, kindR⟩, ?_, ?_⟩
    · intro y t after
      refine (seenR y t).trans (Eq.trans ?_ (congrArg (Option.map (List.map dump)) (seenM y t)).symm)
      by_cases same : y = x
      · rw [if_pos same, if_pos same]
        rfl
      · rw [if_neg same, if_neg same]
        exact seen y t (Nat.le_trans later after)
    · intro y
      refine (tallyR y).trans (Eq.trans ?_ (tallyM y).symm)
      rw [tally y]
  | invalidateAll =>
    obtain ⟨setM, seenM, tallyM⟩ := backendInvalidateAll_effect servesM
    obtain ⟨setR, seenR, tallyR⟩ := backendInvalidateAll_effect servesR
    refine ⟨rfl, ⟨setM, kindM⟩, ⟨setR, kindR⟩, ?_, ?_⟩
    · intro y t _
      refine (seenR y t).trans (Eq.trans ?_ (congrArg (Option.map (List.map dump)) (seenM y t)).symm)
      rfl
    · intro y
      refine (tallyR y).trans (Eq.trans ?_ (tallyM y).symm)
      rw [tally y]

theorem trace_alike {lifetimes : Lifetimes} (events : List (Nat × Op α)) {before : Nat} {m r : State (List α)}
    (alike : Alike dump lifetimes before m r) (ordered : (before :: events.map Prod.fst).Pairwise (· ≤ ·)) :
    trace dump r events = (trace dump m events).map (Observation.dumped dump) := by
  induction events generalizing before m r with
  | nil => rfl
  | cons event events ih =>
    obtain ⟨now, op⟩ := event
    obtain ⟨later, ordered⟩ := List.pairwise_cons.mp ordered
    obtain ⟨found, next⟩ := perform_alike dump alike (later now (by simp)) op
    simp only [trace, List.map_cons]
    rw [ih next ordered, Observation.dumped, found]
    congr 2
    funext x
    exact next.tally x

end Traces

/-- The two backends are told apart only by the form of what Redis returns: under every
sequence of operations at non-decreasing times they return the same lists, element by
element up to `model_dump`, and count the same. -/
theorem backends_equivalent {α : Type} (dump : α → α) (lifetimes : Lifetimes) (project : String)
    (events : List (Nat × Op α)) (ordered : (events.map Prod.fst).Pairwise (· ≤ ·)) :
    trace dump (redisCache lifetimes project) events =
      (trace dump (memoryCache lifetimes) events).map (Observation.dumped dump) := by
  have alike : Alike dump lifetimes 0 (memoryCache lifetimes) (redisCache lifetimes project) := by
    refine ⟨⟨⟨?_, ?_⟩, rfl⟩, ⟨rfl, rfl⟩, ?_, ?_⟩
    · intro key
      have keys : (AList.keys (List.toAList (lifetimes.table.entries.map (fun e =>
          (⟨e.1, ⟨seconds e.2, e.1, ∅⟩⟩ : (_ : String) × TTLCache (List α)))))) = Resource.all.map Resource.name := rfl
      rw [AList.mem_keys, keys, List.mem_map]
      exact ⟨fun ⟨x, _, named⟩ => ⟨x, named.symm⟩, fun ⟨x, named⟩ => ⟨x, x.mem_all, named.symm⟩⟩
    · intro x
      cases x <;> exact ⟨_, rfl, rfl, rfl⟩
    · intro x t _
      cases x <;> rfl
    · intro x
      rfl
  apply trace_alike dump events alike
  rw [List.pairwise_cons]
  exact ⟨fun _ _ => Nat.zero_le _, ordered⟩

def defaultLifetimes : Lifetimes where
  ttl
    | .servers => 5
    | .images => 30
    | .networks => 30
    | .volumes => 10
  positive x := by cases x <;> decide

/- A list that is read in time, at the very moment of its expiry and again after a new
write, and invalidated twice. An element is a number with a mark for a model; what Redis
returns for it has lost the mark. -/
def serverPolls : List (Nat × Op (Nat × Bool)) :=
  [(0, .set .servers [(1, true), (2, true)]), (seconds 4, .get .servers), (seconds 5, .get .servers),
    (seconds 5, .set .servers []), (seconds 6, .get .servers), (seconds 6, .invalidate .servers),
    (seconds 6, .invalidate .images), (seconds 7, .get .servers), (seconds 7, .invalidateAll)]

theorem serverPolls_equivalent :
    (serverPolls.map Prod.fst).Pairwise (· ≤ ·) ∧
    trace (fun e => (e.1, false)) (redisCache defaultLifetimes "admin") serverPolls =
      (trace (fun e => (e.1, false)) (memoryCache defaultLifetimes) serverPolls).map
        (Observation.dumped (fun e => (e.1, false))) := by
  have ordered : (serverPolls.map Prod.fst).Pairwise (· ≤ ·) := by decide
  exact ⟨ordered, backends_equivalent _ defaultLifetimes "admin" serverPolls ordered⟩

end VMachine.Cache
