import Mathlib.Data.List.AList
import Mathlib.Order.Lattice

/-! The response cache: `TTLCache`, its memory backend with one store per resource, the
Redis backend, and the module-level functions that dispatch to the configured one. Every
operation takes the reading of the clock it makes; Redis expires keys by its own clock.
The values are arbitrary; `json` is what a value becomes by being written to Redis. -/
namespace VMachine.Cache

/- A Python dictionary with string keys. -/
abbrev Table (β : Type) := AList (fun _ : String => β)

/- Clocks count nanoseconds. -/
def seconds {τ : Type} [Mul τ] [OfNat τ 1000000000] (n : τ) : τ := n * 1000000000

def incr (counter : Table Nat) (name : String) : Table Nat :=
  counter.insert name ((counter.lookup name).getD 0 + 1)

structure Counters where
  hits : Table Nat
  misses : Table Nat
  invalidations : Table Nat

def Counters.hit (n : Counters) (name : String) : Counters := { n with hits := incr n.hits name }

def Counters.miss (n : Counters) (name : String) : Counters := { n with misses := incr n.misses name }

def Counters.invalidated (n : Counters) (name : String) : Counters :=
  { n with invalidations := incr n.invalidations name }

/- Instants and lifetimes are of one type. They are natural numbers unless said otherwise; the
backends count in nanoseconds. -/
structure Entry (β : Type) (τ : Type := Nat) where
  value : β
  expiresAt : τ

def Entry.isExpired {β τ : Type} [LE τ] [DecidableLE τ] (now : τ) (e : Entry β τ) : Bool := e.expiresAt ≤ now

structure TTLCache (β : Type) (τ : Type := Nat) where
  ttl : τ
  name : String
  store : Table (Entry β τ)

namespace TTLCache
section Operations
variable {β τ : Type}

/- An expired entry is deleted by the read that finds it. -/
def get [LE τ] [DecidableLE τ] (now : τ) (key : String) (c : TTLCache β τ) (n : Counters) :
    Option β × TTLCache β τ × Counters :=
  match c.store.lookup key with
  | none => (none, c, n.miss c.name)
  | some entry =>
    if entry.isExpired now then (none, { c with store := c.store.erase key }, n.miss c.name)
    else (some entry.value, c, n.hit c.name)

def setTtl [Add τ] (now : τ) (key : String) (value : β) (ttl : τ) (c : TTLCache β τ) : TTLCache β τ :=
  { c with store := c.store.insert key ⟨value, now + ttl⟩ }

def set [Add τ] (now : τ) (key : String) (value : β) (c : TTLCache β τ) : TTLCache β τ :=
  c.setTtl now key value c.ttl

def delete (key : String) (c : TTLCache β τ) : TTLCache β τ := { c with store := c.store.erase key }

def clear (c : TTLCache β τ) : TTLCache β τ := { c with store := ∅ }

def invalidateAll (c : TTLCache β τ) (n : Counters) : TTLCache β τ × Counters :=
  (c.clear, n.invalidated c.name)

/- All keys are collected before the first one is deleted. -/
def evictExpired [LE τ] [DecidableLE τ] (now : τ) (c : TTLCache β τ) : Nat × TTLCache β τ :=
  let expiredKeys := (c.store.entries.filter (fun e => e.2.isExpired now)).map Sigma.fst
  (expiredKeys.length, { c with store := expiredKeys.foldl (fun store key => store.erase key) c.store })

end Operations

variable {β : Type}

theorem get_found {now : Nat} {key : String} {c : TTLCache β} {n : Counters} {value : β}
    (found : (c.get now key n).1 = some value) :
    ∃ entry, c.store.lookup key = some entry ∧ entry.value = value ∧ now < entry.expiresAt := by
  cases held : c.store.lookup key with
  | none => simp [get, held] at found
  | some entry =>
    by_cases expired : entry.expiresAt ≤ now
    · simp [get, held, Entry.isExpired, expired] at found
    · simp [get, held, Entry.isExpired, expired] at found
      exact ⟨entry, rfl, found, by omega⟩

theorem get_lookup (now : Nat) (key : String) (c : TTLCache β) (n : Counters) :
    (c.get now key n).2.1.store.lookup key = c.store.lookup key ∨
      (c.get now key n).2.1.store.lookup key = none := by
  unfold get
  split
  · exact .inl rfl
  · split
    · exact .inr (AList.lookup_erase key c.store)
    · exact .inl rfl

theorem get_ttl {τ : Type} [LE τ] [DecidableLE τ] (now : τ) (key : String) (c : TTLCache β τ) (n : Counters) :
    (c.get now key n).2.1.ttl = c.ttl := by
  unfold get
  split
  · rfl
  · split <;> rfl

end TTLCache

/- The client side of RedisCache. The server, with the keys, is shared by all clients. -/
structure RedisCache where
  project : String
  counters : Counters
  errors : Nat

abbrev RedisServer (β : Type) (τ : Type := Nat) := Table (Entry β τ)

namespace RedisCache
section Commands
variable {β τ : Type}

def key (c : RedisCache) (resource : String) : String := "okastro:" ++ c.project ++ ":" ++ resource

/- `ok` says whether the command reaches the server; if not, RedisError is swallowed. -/
def get [LE τ] [DecidableLE τ] (ok : Bool) (now : τ) (resource : String) (c : RedisCache)
    (server : RedisServer β τ) : Option β × RedisCache :=
  if ok then
    match server.lookup (c.key resource) with
    | some entry =>
      if entry.isExpired now then (none, { c with counters := c.counters.miss resource })
      else (some entry.value, { c with counters := c.counters.hit resource })
    | none => (none, { c with counters := c.counters.miss resource })
  else (none, { c with counters := c.counters.miss resource, errors := c.errors + 1 })

/- SETEX with the lifetime that DEFAULT_TTLS holds at the moment, 30 seconds by default. -/
def set [Add τ] [Mul τ] [OfNat τ 30] [OfNat τ 1000000000] (ok : Bool) (now : τ) (ttls : Table τ) (json : β → β)
    (resource : String) (value : β) (c : RedisCache) (server : RedisServer β τ) : RedisCache × RedisServer β τ :=
  if ok then
    (c, server.insert (c.key resource) ⟨json value, now + seconds ((ttls.lookup resource).getD 30)⟩)
  else ({ c with errors := c.errors + 1 }, server)

/- A failed DEL is counted as an invalidation too. -/
def invalidate (ok : Bool) (resource : String) (c : RedisCache) (server : RedisServer β τ) :
    RedisCache × RedisServer β τ :=
  if ok then ({ c with counters := c.counters.invalidated resource }, server.erase (c.key resource))
  else ({ c with counters := c.counters.invalidated resource, errors := c.errors + 1 }, server)

end Commands

variable {β : Type}

theorem get_found {ok : Bool} {now : Nat} {resource : String} {c : RedisCache} {server : RedisServer β}
    {value : β} (found : (c.get ok now resource server).1 = some value) :
    ∃ entry, server.lookup (c.key resource) = some entry ∧ entry.value = value ∧
      now < entry.expiresAt := by
  cases ok with
  | false => simp [get] at found
  | true =>
    cases held : server.lookup (c.key resource) with
    | none => simp [get, held] at found
    | some entry =>
      by_cases expired : entry.expiresAt ≤ now
      · simp [get, held, Entry.isExpired, expired] at found
      · simp [get, held, Entry.isExpired, expired] at found
        exact ⟨entry, rfl, found, by omega⟩

theorem get_key {τ : Type} [LE τ] [DecidableLE τ] (ok : Bool) (now : τ) (resource other : String) (c : RedisCache)
    (server : RedisServer β τ) : (c.get ok now resource server).2.key other = c.key other := by
  unfold get
  split
  · split
    · split <;> rfl
    · rfl
  · rfl

theorem key_inj (client : RedisCache) {resource other : String} (same : client.key resource = client.key other) :
    resource = other := (String.append_right_inj _).mp same

theorem set_lookup_ne {τ : Type} [Add τ] [Mul τ] [OfNat τ 30] [OfNat τ 1000000000] (ok : Bool) (now : τ)
    (ttls : Table τ) (json : β → β) {resource other : String} (apart : other ≠ resource) (value : β) (c : RedisCache)
    (server : RedisServer β τ) : (c.set ok now ttls json resource value server).2.lookup (c.key other) =
      server.lookup (c.key other) := by
  cases ok with
  | false => rfl
  | true => exact AList.lookup_insert_ne (fun same => apart (key_inj c same))

theorem invalidate_lookup_ne {τ : Type} (ok : Bool) {resource other : String} (apart : other ≠ resource)
    (c : RedisCache) (server : RedisServer β τ) :
    (c.invalidate ok resource server).2.lookup (c.key other) = server.lookup (c.key other) := by
  cases ok with
  | false => rfl
  | true => exact AList.lookup_erase_ne (fun same => apart (key_inj c same))

theorem invalidate_lookup (ok : Bool) (resource other : String) (c : RedisCache) (server : RedisServer β) :
    (c.invalidate ok resource server).2.lookup ((c.invalidate ok resource server).1.key other) =
      server.lookup (c.key other) ∨
    (c.invalidate ok resource server).2.lookup ((c.invalidate ok resource server).1.key other) = none := by
  cases ok with
  | false => exact .inl rfl
  | true =>
    by_cases same : c.key other = c.key resource
    · right
      have gone : (server.erase (c.key resource)).lookup (c.key other) = none := by
        rw [same]
        exact AList.lookup_erase ..
      exact gone
    · left
      have kept : (server.erase (c.key resource)).lookup (c.key other) = server.lookup (c.key other) :=
        AList.lookup_erase_ne same
      exact kept

end RedisCache

inductive Backend (β : Type) (τ : Type := Nat) where
  | memory (stores : Table (TTLCache β τ))
  | redis (client : RedisCache) (server : RedisServer β τ)

/- The module's state: DEFAULT_TTLS, the counters of cache.py and `_backend`. -/
structure State (β : Type) (τ : Type := Nat) where
  ttls : Table τ
  counters : Counters
  backend : Option (Backend β τ)

/- One resource's dictionary entry, if any store of the backend holds one. -/
def Backend.peek {β τ : Type} (resource : String) : Backend β τ → Option (Entry β τ)
  | .memory stores => (stores.lookup resource).bind (fun store => store.store.lookup resource)
  | .redis client server => server.lookup (client.key resource)

def State.peek {β τ : Type} (s : State β τ) (resource : String) : Option (Entry β τ) :=
  s.backend.bind (Backend.peek resource)

section Dispatch
variable {β τ : Type}

def cacheGet [LE τ] [DecidableLE τ] (ok : Bool) (now : τ) (resource : String) (s : State β τ) :
    Option β × State β τ :=
  match s.backend with
  | none => (none, s)
  | some (.memory stores) =>
    match stores.lookup resource with
    | none => (none, s)
    | some store =>
      let (found, store, counters) := store.get now resource s.counters
      (found, { s with counters := counters, backend := some (.memory (stores.insert resource store)) })
  | some (.redis client server) =>
    let (found, client) := client.get ok now resource server
    (found, { s with backend := some (.redis client server) })

def cacheSet [Add τ] [Mul τ] [OfNat τ 30] [OfNat τ 1000000000] (ok : Bool) (now : τ) (json : β → β)
    (resource : String) (value : β) (s : State β τ) : State β τ :=
  match s.backend with
  | none => s
  | some (.memory stores) =>
    match stores.lookup resource with
    | none => s
    | some store => { s with backend := some (.memory (stores.insert resource (store.set now resource value))) }
  | some (.redis client server) =>
    let (client, server) := client.set ok now s.ttls json resource value server
    { s with backend := some (.redis client server) }

def cacheInvalidate (ok : Bool) (resource : String) (s : State β τ) : State β τ :=
  match s.backend with
  | none => s
  | some (.memory stores) =>
    match stores.lookup resource with
    | none => s
    | some store =>
      let (store, counters) := store.invalidateAll s.counters
      { s with counters := counters, backend := some (.memory (stores.insert resource store)) }
  | some (.redis client server) =>
    let (client, server) := client.invalidate ok resource server
    { s with backend := some (.redis client server) }

/- `DEFAULT_TTLS`, and `MemoryCacheBackend(DEFAULT_TTLS)`. -/
def defaultTtls : Table Nat :=
  List.toAList [⟨"servers", 5⟩, ⟨"images", 30⟩, ⟨"networks", 30⟩, ⟨"volumes", 10⟩]

def memoryCacheBackend [Mul τ] [OfNat τ 1000000000] (ttls : Table τ) : Backend β τ :=
  .memory (List.toAList (ttls.entries.map (fun e => ⟨e.1, ⟨seconds e.2, e.1, ∅⟩⟩)))

end Dispatch

/- A command to the memory backend always succeeds. -/
def State.reaches {β τ : Type} (s : State β τ) (ok : Bool) : Bool :=
  match s.backend with
  | some (.redis _ _) => ok
  | _ => true

/- The lifetime an entry of the resource is stored with, where it can be stored at all. -/
def State.lifetime {β τ : Type} [Mul τ] [OfNat τ 30] [OfNat τ 1000000000] (s : State β τ) (resource : String) :
    Option τ :=
  match s.backend with
  | none => none
  | some (.memory stores) => (stores.lookup resource).map TTLCache.ttl
  | some (.redis _ _) => some (seconds ((s.ttls.lookup resource).getD 30))

/- What a call on one resource changes at most: its store, though not the lifetime of that, or what
Redis has under its key. -/
inductive Touches {β τ : Type} (resource : String) (s : State β τ) : State β τ → Prop where
  | nothing : Touches resource s s
  | store {stores : Table (TTLCache β τ)} {store changed : TTLCache β τ} (counters : Counters)
      (backend : s.backend = some (.memory stores)) (known : stores.lookup resource = some store)
      (ttl : changed.ttl = store.ttl) :
      Touches resource s ⟨s.ttls, counters, some (.memory (stores.insert resource changed))⟩
  | server {client client' : RedisCache} {server server' : RedisServer β τ}
      (backend : s.backend = some (.redis client server)) (keys : ∀ other, client'.key other = client.key other)
      (kept : ∀ other, other ≠ resource → server'.lookup (client.key other) = server.lookup (client.key other)) :
      Touches resource s ⟨s.ttls, s.counters, some (.redis client' server')⟩

section Calls
variable {β τ : Type}

theorem cacheGet_touches [LE τ] [DecidableLE τ] (ok : Bool) (now : τ) (resource : String) (s : State β τ) :
    Touches resource s (cacheGet ok now resource s).2 := by
  unfold cacheGet
  split
  · exact .nothing
  · rename_i backend
    split
    · exact .nothing
    · rename_i store known
      exact .store _ backend known (store.get_ttl now resource s.counters)
  · rename_i client server backend
    exact .server backend (fun other => client.get_key ok now resource other server) (fun _ _ => rfl)

theorem cacheSet_touches [Add τ] [Mul τ] [OfNat τ 30] [OfNat τ 1000000000] (ok : Bool) (now : τ) (json : β → β)
    (resource : String) (value : β) (s : State β τ) : Touches resource s (cacheSet ok now json resource value s) := by
  unfold cacheSet
  split
  · exact .nothing
  · rename_i backend
    split
    · exact .nothing
    · rename_i known
      exact .store s.counters backend known rfl
  · rename_i client server backend
    refine .server backend (fun _ => ?_) (fun _ apart => client.set_lookup_ne ok now s.ttls json apart value server)
    cases ok <;> rfl

theorem cacheInvalidate_touches (ok : Bool) (resource : String) (s : State β τ) :
    Touches resource s (cacheInvalidate ok resource s) := by
  unfold cacheInvalidate
  split
  · exact .nothing
  · rename_i backend
    split
    · exact .nothing
    · rename_i known
      exact .store _ backend known rfl
  · rename_i client server backend
    refine .server backend (fun _ => ?_) (fun _ apart => client.invalidate_lookup_ne ok apart server)
    cases ok <;> rfl

variable {s t : State β τ} {resource : String}

theorem Touches.ttls (touches : Touches resource s t) : t.ttls = s.ttls := by
  cases touches <;> rfl

theorem Touches.reaches (touches : Touches resource s t) (ok : Bool) : t.reaches ok = s.reaches ok := by
  cases touches with
  | nothing => rfl
  | store _ backend _ _ => simp only [State.reaches, backend]
  | server backend _ _ => simp only [State.reaches, backend]

/-- No call changes how long the entries of a resource live. -/
theorem Touches.lifetime [Mul τ] [OfNat τ 30] [OfNat τ 1000000000] (touches : Touches resource s t) (other : String) :
    t.lifetime other = s.lifetime other := by
  cases touches with
  | nothing => rfl
  | store _ backend known ttl =>
    simp only [State.lifetime, backend]
    by_cases same : other = resource
    · subst same
      simp [AList.lookup_insert, known, ttl]
    · rw [AList.lookup_insert_ne same]
  | server backend _ _ => simp only [State.lifetime, backend]

theorem peek_memory_insert {stores : Table (TTLCache β τ)} {store : TTLCache β τ} {other : String} :
    Backend.peek resource (.memory (stores.insert other store)) =
      if resource = other then store.store.lookup resource else Backend.peek resource (.memory stores) := by
  by_cases same : resource = other
  · subst same
    simp [Backend.peek, AList.lookup_insert]
  · simp [Backend.peek, AList.lookup_insert_ne same, same]

theorem Touches.peek_other (touches : Touches resource s t) {other : String} (apart : other ≠ resource) :
    t.peek other = s.peek other := by
  cases touches with
  | nothing => rfl
  | store _ backend _ _ => simp only [State.peek, backend, Option.bind_some, peek_memory_insert, apart, if_false]
  | server backend keys kept =>
    simp only [State.peek, backend, Option.bind_some, Backend.peek]
    rw [keys, kept other apart]

end Calls

section Peek
variable {β : Type} {s : State β} {resource other : String} {ok : Bool} {now : Nat}

/-- What a read returns is stored and has not expired. -/
theorem cacheGet_found {value : β} (found : (cacheGet ok now resource s).1 = some value) :
    ∃ entry, s.peek resource = some entry ∧ entry.value = value ∧ now < entry.expiresAt := by
  cases backend : s.backend with
  | none => simp [cacheGet, backend] at found
  | some b =>
    simp only [State.peek, backend, Option.bind_some]
    cases b with
    | memory stores =>
      cases known : stores.lookup resource with
      | none => simp [cacheGet, backend, known] at found
      | some store =>
        simp only [cacheGet, backend, known] at found
        simpa only [Backend.peek, known, Option.bind_some] using TTLCache.get_found found
    | redis client server =>
      simp only [cacheGet, backend] at found
      exact RedisCache.get_found found

/-- A read stores nothing; at most it drops an expired entry. -/
theorem cacheGet_peek (ok : Bool) (now : Nat) (resource : String) (s : State β) (other : String) :
    (cacheGet ok now resource s).2.peek other = s.peek other ∨
      (cacheGet ok now resource s).2.peek other = none := by
  by_cases same : other = resource
  · subst same
    cases backend : s.backend with
    | none => simp [cacheGet, backend]
    | some b =>
      cases b with
      | memory stores =>
        cases known : stores.lookup other with
        | none => simp [cacheGet, backend, known]
        | some store =>
          simp only [cacheGet, backend, known, State.peek, Option.bind_some, peek_memory_insert]
          simpa [Backend.peek, known] using TTLCache.get_lookup now other store s.counters
      | redis client server =>
        left
        simp only [cacheGet, backend, State.peek, Option.bind_some, Backend.peek]
        rw [RedisCache.get_key]
  · exact .inl ((cacheGet_touches ok now resource s).peek_other same)

/-- A write of one resource either fails or stores the value for the backend's lifetime. -/
theorem cacheSet_peek (ok : Bool) (now : Nat) (json : β → β) (resource : String) (value : β)
    (s : State β) :
    (cacheSet ok now json resource value s).peek resource = s.peek resource ∨
    ∃ stored lifetime, (stored = value ∨ stored = json value) ∧ s.lifetime resource = some lifetime ∧
      (cacheSet ok now json resource value s).peek resource = some ⟨stored, now + lifetime⟩ := by
  cases backend : s.backend with
  | none => simp [cacheSet, backend]
  | some b =>
    cases b with
    | memory stores =>
      cases known : stores.lookup resource with
      | none => simp [cacheSet, backend, known]
      | some store =>
        refine .inr ⟨value, store.ttl, .inl rfl, by simp [State.lifetime, backend, known], ?_⟩
        simp [cacheSet, backend, known, State.peek, peek_memory_insert, TTLCache.set, TTLCache.setTtl,
          AList.lookup_insert]
    | redis client server =>
      cases ok with
      | false => simp [cacheSet, backend, RedisCache.set, State.peek, Backend.peek, RedisCache.key]
      | true =>
        refine .inr ⟨json value, seconds ((s.ttls.lookup resource).getD 30), .inr rfl,
          by simp [State.lifetime, backend], ?_⟩
        simp [cacheSet, backend, RedisCache.set, State.peek, Backend.peek, AList.lookup_insert]

/-- An invalidation stores nothing under any resource. -/
theorem cacheInvalidate_peek (ok : Bool) (resource : String) (s : State β) (other : String) :
    (cacheInvalidate ok resource s).peek other = s.peek other ∨
      (cacheInvalidate ok resource s).peek other = none := by
  cases backend : s.backend with
  | none => simp [cacheInvalidate, backend]
  | some b =>
    cases b with
    | memory stores =>
      cases known : stores.lookup resource with
      | none => simp [cacheInvalidate, backend, known]
      | some store =>
        simp only [cacheInvalidate, backend, known, State.peek, Option.bind_some, peek_memory_insert]
        by_cases same : other = resource
        · simp [same, TTLCache.invalidateAll, TTLCache.clear]
        · simp [same]
    | redis client server =>
      simp only [cacheInvalidate, backend, State.peek, Option.bind_some]
      exact RedisCache.invalidate_lookup ok resource other client server

theorem cacheInvalidate_reaches {τ : Type} (sent : Bool) (resource : String) (s : State β τ) (ok : Bool) :
    (cacheInvalidate sent resource s).reaches ok = s.reaches ok :=
  (cacheInvalidate_touches sent resource s).reaches ok

/-- An invalidation that reaches the backend leaves no entry of its resource. -/
theorem cacheInvalidate_gone {τ : Type} {s : State β τ} (reached : s.reaches ok = true) :
    (cacheInvalidate ok resource s).peek resource = none := by
  cases backend : s.backend with
  | none => simp [cacheInvalidate, backend, State.peek]
  | some b =>
    cases b with
    | memory stores =>
      cases known : stores.lookup resource with
      | none => simp [cacheInvalidate, backend, known, State.peek, Backend.peek]
      | some store =>
        simp [cacheInvalidate, backend, known, State.peek, peek_memory_insert, TTLCache.invalidateAll,
          TTLCache.clear]
    | redis client server =>
      have sent : ok = true := by simpa [State.reaches, backend] using reached
      have gone : (server.erase (client.key resource)).lookup (client.key resource) = none :=
        AList.lookup_erase ..
      simp only [cacheInvalidate, backend, sent, RedisCache.invalidate, if_true, State.peek,
        Option.bind_some, Backend.peek]
      exact gone

end Peek

section Lifetime
variable {β τ : Type} [Add τ] [Mul τ] [OfNat τ 30] [OfNat τ 1000000000]

omit [Add τ] in
theorem cacheGet_lifetime [LE τ] [DecidableLE τ] (ok : Bool) (now : τ) (resource : String) (s : State β τ)
    (other : String) : (cacheGet ok now resource s).2.lifetime other = s.lifetime other :=
  (cacheGet_touches ok now resource s).lifetime other

theorem cacheSet_lifetime (ok : Bool) (now : τ) (json : β → β) (resource : String) (value : β) (s : State β τ)
    (other : String) : (cacheSet ok now json resource value s).lifetime other = s.lifetime other :=
  (cacheSet_touches ok now json resource value s).lifetime other

omit [Add τ] in
theorem cacheInvalidate_lifetime (ok : Bool) (resource : String) (s : State β τ) (other : String) :
    (cacheInvalidate ok resource s).lifetime other = s.lifetime other :=
  (cacheInvalidate_touches ok resource s).lifetime other

end Lifetime

end VMachine.Cache
