import Mathlib.Data.List.Induction
import VMachine.Cache.Equivalence

/-! The task that copies the counters of the cache to Prometheus. The counters of RedisCache
are cumulative, and so are those of Prometheus, which can only be incremented: the task has to
add what is new since its last poll. It does so for `cache_*`; for `redis_cache_*` it adds the
whole count at every poll. -/
namespace VMachine.Cache

/- A latency, with the number of the command it was measured on. -/
structure Sample where
  command : Nat
  latency : Nat
  deriving Repr, DecidableEq

/- `_record_latency`: of more than 1000 samples the last 500 are kept. -/
def recordLatency (latencies : List Sample) (sample : Sample) : List Sample :=
  if 1000 < (latencies ++ [sample]).length then
    (latencies ++ [sample]).drop ((latencies ++ [sample]).length - 500)
  else latencies ++ [sample]

inductive Command (β : Type) where
  | get (x : Resource)
  | set (x : Resource) (value : β)
  | invalidate (x : Resource)

/- What a command counts as. -/
inductive Happening where
  | hit (x : Resource)
  | miss (x : Resource)
  | invalidation (x : Resource)
  | error
  deriving Repr, DecidableEq

/- What a command that fails counts as besides. -/
def failure (ok : Bool) : List Happening := if ok then [] else [.error]

/- What `collect_metrics` returns of a RedisCache. -/
structure Snapshot where
  counters : Counters
  redisErrors : Nat
  redisLatencySamples : List Sample

/- `redis_cache_hits`, `redis_cache_misses`, `redis_cache_invalidations` and
`redis_cache_errors`, and the observations of `redis_cache_latency`. -/
structure RedisMetrics where
  counters : Counters
  errors : Nat
  latency : List Sample

/- `cache_hits`, `cache_misses` and `cache_invalidations`, with `_last_cache`. -/
structure CacheMetrics where
  counters : Counters
  last : Counters

/- `counter.labels(resource=name).inc(amount)` if the amount is positive. -/
def incBy (counter : Table Nat) (name : String) (amount : Nat) : Table Nat :=
  if 0 < amount then counter.insert name ((counter.lookup name).getD 0 + amount) else counter

/- The three counters of one resource, incremented by these amounts. -/
def Counters.add (n : Counters) (name : String) (amount : Tally) : Counters where
  hits := incBy n.hits name amount.hits
  misses := incBy n.misses name amount.misses
  invalidations := incBy n.invalidations name amount.invalidations

def Counters.put (n : Counters) (name : String) (tally : Tally) : Counters where
  hits := n.hits.insert name tally.hits
  misses := n.misses.insert name tally.misses
  invalidations := n.invalidations.insert name tally.invalidations

/- `_sync_redis_metrics`. -/
def syncRedisMetrics (snapshot : Snapshot) (m : RedisMetrics) : RedisMetrics where
  counters := Resource.all.foldl (fun n x => n.add x.name (snapshot.counters.tally x.name)) m.counters
  errors := m.errors + snapshot.redisErrors
  latency := m.latency ++ snapshot.redisLatencySamples

def Tally.plus (a b : Tally) : Tally where
  hits := a.hits + b.hits
  misses := a.misses + b.misses
  invalidations := a.invalidations + b.invalidations

/- What is new since the last poll. -/
def Tally.since (now last : Tally) : Tally where
  hits := now.hits - last.hits
  misses := now.misses - last.misses
  invalidations := now.invalidations - last.invalidations

/- One resource's share of a poll of `_sync_cache_metrics`. -/
def syncResource (snapshot : Snapshot) (m : CacheMetrics) (x : Resource) : CacheMetrics where
  counters := m.counters.add x.name ((snapshot.counters.tally x.name).since (m.last.tally x.name))
  last := m.last.put x.name (snapshot.counters.tally x.name)

def syncCacheMetrics (snapshot : Snapshot) (m : CacheMetrics) : CacheMetrics :=
  Resource.all.foldl (syncResource snapshot) m

/- A RedisCache with the server it talks to, and what is exported of it. `commands` numbers
the commands, and `happened` is what they have counted as. -/
structure Monitored (β : Type) where
  client : RedisCache
  server : RedisServer β
  latencies : List Sample
  commands : Nat
  happened : List Happening
  cache : CacheMetrics
  redis : RedisMetrics

/- A command that is issued at a time and reaches the server or not, or a poll of the task.
`invalidate_all` is the four commands that it consists of. -/
inductive Event (β : Type) where
  | command (now : Nat) (ok : Bool) (latency : Nat) (command : Command β)
  | poll

namespace Monitored

def initial {β : Type} (project : String) (server : RedisServer β) : Monitored β where
  client := ⟨project, ⟨∅, ∅, ∅⟩, 0⟩
  server := server
  latencies := []
  commands := 0
  happened := []
  cache := ⟨⟨∅, ∅, ∅⟩, ⟨∅, ∅, ∅⟩⟩
  redis := ⟨⟨∅, ∅, ∅⟩, 0, []⟩

def collectMetrics {β : Type} (s : Monitored β) : Snapshot :=
  ⟨s.client.counters, s.client.errors, s.latencies⟩

/- A command that fails raises before its latency is recorded. -/
def issued {β : Type} (s : Monitored β) (ok : Bool) (latency : Nat) (counts : List Happening) : Monitored β :=
  { s with
    latencies := if ok then recordLatency s.latencies ⟨s.commands, latency⟩ else s.latencies
    commands := s.commands + 1
    happened := s.happened ++ counts ++ failure ok }

section Steps
variable {β : Type} (ttls : Table Nat) (json : β → β)

def step (s : Monitored β) : Event β → Monitored β
  | .command now ok latency (.get x) =>
    let (found, client) := s.client.get ok now x.name s.server
    { s.issued ok latency [if found.isSome then .hit x else .miss x] with client := client }
  | .command now ok latency (.set x value) =>
    let (client, server) := s.client.set ok now ttls json x.name value s.server
    { s.issued ok latency [] with client := client, server := server }
  | .command _ ok latency (.invalidate x) =>
    let (client, server) := s.client.invalidate ok x.name s.server
    { s.issued ok latency [.invalidation x] with client := client, server := server }
  | .poll =>
    { s with
      cache := syncCacheMetrics s.collectMetrics s.cache
      redis := syncRedisMetrics s.collectMetrics s.redis }

def run (s : Monitored β) (events : List (Event β)) : Monitored β := events.foldl (step ttls json) s

end Steps

/- How often a resource was hit, missed and invalidated. -/
def counted (happened : List Happening) (x : Resource) : Tally where
  hits := happened.count (.hit x)
  misses := happened.count (.miss x)
  invalidations := happened.count (.invalidation x)

/- The exported counters are the numbers of what has happened, and no latency has been
observed twice. -/
structure Faithful {β : Type} (s : Monitored β) : Prop where
  counters : ∀ x : Resource, s.redis.counters.tally x.name = counted s.happened x
  errors : s.redis.errors = s.happened.count .error
  latency : s.redis.latency.Nodup

section Counting

theorem incBy_lookup (counter : Table Nat) (name other : String) (amount : Nat) :
    ((incBy counter name amount).lookup other).getD 0 =
      (counter.lookup other).getD 0 + if other = name then amount else 0 := by
  unfold incBy
  by_cases same : other = name
  · subst same
    by_cases positive : 0 < amount
    · simp [positive, AList.lookup_insert]
    · have zero : amount = 0 := by omega
      simp [zero]
  · by_cases positive : 0 < amount
    · simp [positive, same, AList.lookup_insert_ne same]
    · simp [positive, same]

theorem add_tally (n : Counters) (x y : Resource) (amount : Tally) :
    (n.add x.name amount).tally y.name = if y = x then (n.tally y.name).plus amount else n.tally y.name := by
  simp only [Counters.tally, Counters.add, incBy_lookup, name_eq_iff]
  by_cases same : y = x
  · simp [same, Tally.plus]
  · simp [same]

theorem put_tally (n : Counters) (x y : Resource) (tally : Tally) :
    (n.put x.name tally).tally y.name = if y = x then tally else n.tally y.name := by
  by_cases same : y = x
  · subst same
    simp [Counters.tally, Counters.put, AList.lookup_insert]
  · have other : y.name ≠ x.name := fun names => same (Resource.name_inj names)
    simp [Counters.tally, Counters.put, AList.lookup_insert_ne other, same]

/-- Each of the four resources is added once. -/
theorem add_each (amount : Resource → Tally) (n : Counters) (x : Resource) :
    (Resource.all.foldl (fun n x => n.add x.name (amount x)) n).tally x.name = (n.tally x.name).plus (amount x) := by
  simp only [Resource.all, List.foldl_cons, List.foldl_nil, add_tally]
  cases x <;> simp

theorem syncRedisMetrics_tally (snapshot : Snapshot) (m : RedisMetrics) (x : Resource) :
    (syncRedisMetrics snapshot m).counters.tally x.name =
      (m.counters.tally x.name).plus (snapshot.counters.tally x.name) :=
  add_each _ m.counters x

theorem syncCacheMetrics_tally (snapshot : Snapshot) (m : CacheMetrics) (x : Resource) :
    (syncCacheMetrics snapshot m).counters.tally x.name =
      (m.counters.tally x.name).plus ((snapshot.counters.tally x.name).since (m.last.tally x.name)) ∧
    (syncCacheMetrics snapshot m).last.tally x.name = snapshot.counters.tally x.name := by
  simp only [syncCacheMetrics, Resource.all, List.foldl_cons, List.foldl_nil, syncResource, add_tally, put_tally]
  cases x <;> simp

theorem plus_since {last more : Tally} : last.plus ((last.plus more).since last) = last.plus more := by
  simp [Tally.plus, Tally.since]

/-- If what was seen last is what has been exported, and has only grown since, a poll catches up. -/
theorem sync_catches_up {snapshot : Snapshot} {m : CacheMetrics} {x : Resource}
    (exported : m.counters.tally x.name = m.last.tally x.name)
    (behind : ∃ more, snapshot.counters.tally x.name = (m.last.tally x.name).plus more) :
    (syncCacheMetrics snapshot m).counters.tally x.name = snapshot.counters.tally x.name ∧
    (syncCacheMetrics snapshot m).last.tally x.name = snapshot.counters.tally x.name := by
  obtain ⟨counters, last⟩ := syncCacheMetrics_tally snapshot m x
  obtain ⟨more, grown⟩ := behind
  refine ⟨?_, last⟩
  rw [counters, exported, grown, plus_since]

theorem counted_append (happened more : List Happening) (x : Resource) :
    counted (happened ++ more) x = (counted happened x).plus (counted more x) := by
  simp [counted, Tally.plus, List.count_append]

theorem hit_counted (n : Counters) (x y : Resource) :
    (n.hit x.name).tally y.name = (n.tally y.name).plus (counted [.hit x] y) := by
  by_cases same : y = x
  · simp [hit_tally, same, counted, Tally.plus]
  · simp [hit_tally, name_eq_iff, same, Ne.symm same, counted, Tally.plus]

theorem miss_counted (n : Counters) (x y : Resource) :
    (n.miss x.name).tally y.name = (n.tally y.name).plus (counted [.miss x] y) := by
  by_cases same : y = x
  · simp [miss_tally, same, counted, Tally.plus]
  · simp [miss_tally, name_eq_iff, same, Ne.symm same, counted, Tally.plus]

theorem invalidated_counted (n : Counters) (x y : Resource) :
    (n.invalidated x.name).tally y.name = (n.tally y.name).plus (counted [.invalidation x] y) := by
  by_cases same : y = x
  · simp [invalidated_tally, same, counted, Tally.plus]
  · simp [invalidated_tally, name_eq_iff, same, Ne.symm same, counted, Tally.plus]

theorem counted_failure (happened : List Happening) (ok : Bool) (x : Resource) :
    counted (happened ++ failure ok) x = counted happened x := by
  cases ok <;> simp [counted, failure]

theorem count_issued (happened : List Happening) {counts : List Happening} (ok : Bool)
    (harmless : counts.count .error = 0) :
    (happened ++ counts ++ failure ok).count .error = happened.count .error + (failure ok).count .error := by
  rw [List.count_append, List.count_append, harmless, Nat.add_zero]

end Counting

section Invariant
variable {β : Type}

/-- A read counts as what it returns, and a failed one as an error too. -/
theorem get_counts (client : RedisCache) (server : RedisServer β) (ok : Bool) (now : Nat) (x : Resource) :
    (∀ y : Resource, (client.get ok now x.name server).2.counters.tally y.name = (client.counters.tally y.name).plus
      (counted [if (client.get ok now x.name server).1.isSome then .hit x else .miss x] y)) ∧
    (client.get ok now x.name server).2.errors = client.errors + (failure ok).count .error := by
  cases ok with
  | false => exact ⟨fun y => miss_counted client.counters x y, rfl⟩
  | true =>
    obtain ⟨returns, counts⟩ := RedisCache.get_effect now x.name client server
    constructor
    · intro y
      rw [counts, returns]
      split
      · exact hit_counted client.counters x y
      · exact miss_counted client.counters x y
    · unfold RedisCache.get
      rw [if_pos rfl]
      split
      · split <;> rfl
      · rfl

/- The counters of the client tell what has happened, and its samples are of different
commands. -/
structure Kept (s : Monitored β) : Prop where
  counters : ∀ x : Resource, s.client.counters.tally x.name = counted s.happened x
  errors : s.client.errors = s.happened.count .error
  numbered : s.latencies.Pairwise (fun a b => a.command < b.command)
  past : ∀ sample ∈ s.latencies, sample.command < s.commands

theorem kept_initial (project : String) (server : RedisServer β) : Kept (initial project server) where
  counters _ := rfl
  errors := rfl
  numbered := List.Pairwise.nil
  past _ none := absurd none List.not_mem_nil

theorem recordLatency_sublist (latencies : List Sample) (sample : Sample) :
    (recordLatency latencies sample).Sublist (latencies ++ [sample]) := by
  unfold recordLatency
  split
  · exact List.drop_sublist _ _
  · exact List.Sublist.refl _

/-- The samples of a client that has issued one more command. -/
theorem issued_samples {s : Monitored β} (kept : Kept s) (ok : Bool) (latency : Nat) (counts : List Happening) :
    (s.issued ok latency counts).latencies.Pairwise (fun a b => a.command < b.command) ∧
    ∀ sample ∈ (s.issued ok latency counts).latencies, sample.command < s.commands + 1 := by
  cases ok with
  | false =>
    refine ⟨kept.numbered, ?_⟩
    intro sample listed
    have past := kept.past sample listed
    omega
  | true =>
    have sub := recordLatency_sublist s.latencies ⟨s.commands, latency⟩
    refine ⟨List.Pairwise.sublist sub ?_, ?_⟩
    · rw [List.pairwise_append]
      refine ⟨kept.numbered, List.pairwise_singleton _ _, ?_⟩
      intro a listed b last
      cases List.mem_singleton.mp last
      exact kept.past a listed
    · intro sample listed
      obtain old | new := List.mem_append.mp (sub.subset listed)
      · have past := kept.past sample old
        omega
      · cases List.mem_singleton.mp new
        exact Nat.lt_succ_self _

section Steps
variable {ttls : Table Nat} {json : β → β}

theorem step_kept {s : Monitored β} (kept : Kept s) (event : Event β) : Kept (s.step ttls json event) := by
  cases event with
  | poll => exact ⟨kept.counters, kept.errors, kept.numbered, kept.past⟩
  | command now ok latency command =>
    cases command with
    | get x =>
      obtain ⟨counters, errors⟩ := get_counts s.client s.server ok now x
      obtain ⟨numbered, past⟩ := issued_samples kept ok latency
        [if (s.client.get ok now x.name s.server).1.isSome then .hit x else .miss x]
      refine ⟨?_, ?_, numbered, past⟩
      · intro y
        refine (counters y).trans ?_
        rw [kept.counters y, ← counted_append]
        exact (counted_failure _ ok y).symm
      · refine errors.trans ?_
        have harmless : [if (s.client.get ok now x.name s.server).1.isSome then Happening.hit x else .miss x].count
            .error = 0 := by
          split <;> rfl
        rw [kept.errors]
        exact (count_issued _ ok harmless).symm
    | set x value =>
      obtain ⟨numbered, past⟩ := issued_samples kept ok latency []
      have counters : ((s.client.set ok now ttls json x.name value s.server).1).counters = s.client.counters ∧
          ((s.client.set ok now ttls json x.name value s.server).1).errors =
            s.client.errors + (failure ok).count .error := by
        cases ok <;> exact ⟨rfl, rfl⟩
      refine ⟨?_, ?_, numbered, past⟩
      · intro y
        have same : (s.client.set ok now ttls json x.name value s.server).1.counters.tally y.name =
            counted s.happened y := by rw [counters.1, kept.counters y]
        refine same.trans ?_
        exact ((counted_failure (s.happened ++ []) ok y).trans (by rw [List.append_nil])).symm
      · refine counters.2.trans ?_
        rw [kept.errors]
        exact (count_issued _ ok rfl).symm
    | invalidate x =>
      obtain ⟨numbered, past⟩ := issued_samples kept ok latency [.invalidation x]
      have counters : ((s.client.invalidate ok x.name s.server).1).counters = s.client.counters.invalidated x.name ∧
          ((s.client.invalidate ok x.name s.server).1).errors = s.client.errors + (failure ok).count .error := by
        cases ok <;> exact ⟨rfl, rfl⟩
      refine ⟨?_, ?_, numbered, past⟩
      · intro y
        have more : (s.client.invalidate ok x.name s.server).1.counters.tally y.name =
            counted (s.happened ++ [.invalidation x]) y := by
          rw [counters.1, invalidated_counted, kept.counters y, ← counted_append]
        exact more.trans (counted_failure _ ok y).symm
      · refine counters.2.trans ?_
        rw [kept.errors]
        exact (count_issued _ ok rfl).symm

theorem step_exports (s : Monitored β) {event : Event β} (other : event ≠ .poll) :
    (s.step ttls json event).redis = s.redis ∧ (s.step ttls json event).cache = s.cache := by
  cases event with
  | poll => exact absurd rfl other
  | command now ok latency command => cases command <;> exact ⟨rfl, rfl⟩

theorem run_snoc (s : Monitored β) (events : List (Event β)) (event : Event β) :
    s.run ttls json (events ++ [event]) = (s.run ttls json events).step ttls json event := by
  simp [run]

theorem run_append (s : Monitored β) (events more : List (Event β)) :
    s.run ttls json (events ++ more) = (s.run ttls json events).run ttls json more := by
  simp [run]

theorem run_kept {s : Monitored β} (kept : Kept s) (events : List (Event β)) : Kept (s.run ttls json events) := by
  induction events generalizing s with
  | nil => exact kept
  | cons event events ih => exact ih (step_kept kept event)

/- What has been exported stays exported. -/
structure Grown (s t : Monitored β) : Prop where
  counters : ∀ x : Resource, ∃ more, t.redis.counters.tally x.name = (s.redis.counters.tally x.name).plus more
  errors : s.redis.errors ≤ t.redis.errors
  latency : s.redis.latency <+: t.redis.latency

theorem grown_refl (s : Monitored β) : Grown s s where
  counters _ := ⟨⟨0, 0, 0⟩, rfl⟩
  errors := Nat.le_refl _
  latency := List.prefix_refl _

theorem step_grown (s : Monitored β) (event : Event β) : Grown s (s.step ttls json event) := by
  by_cases polls : event = .poll
  · subst polls
    exact ⟨fun x => ⟨_, syncRedisMetrics_tally s.collectMetrics s.redis x⟩, Nat.le_add_right _ _,
      List.prefix_append _ _⟩
  · obtain ⟨same, _⟩ := @step_exports β ttls json s event polls
    refine ⟨?_, ?_, ?_⟩
    · rw [same]
      exact (grown_refl s).counters
    · exact Nat.le_of_eq (by rw [same])
    · exact ⟨[], by rw [same, List.append_nil]⟩

theorem Grown.trans {s t u : Monitored β} (first : Grown s t) (second : Grown t u) : Grown s u := by
  refine ⟨?_, Nat.le_trans first.errors second.errors, first.latency.trans second.latency⟩
  intro x
  obtain ⟨more, tally⟩ := first.counters x
  obtain ⟨more', tally'⟩ := second.counters x
  refine ⟨more.plus more', ?_⟩
  rw [tally', tally]
  simp [Tally.plus, Nat.add_assoc]

theorem run_grown (s : Monitored β) (events : List (Event β)) : Grown s (s.run ttls json events) := by
  induction events generalizing s with
  | nil => exact grown_refl s
  | cons event events ih => exact (step_grown s event).trans (ih _)

/-- Nothing is counted exactly if nothing has happened. -/
theorem nothing_happened {happened : List Happening} (counters : ∀ x, counted happened x = ⟨0, 0, 0⟩)
    (errors : happened.count .error = 0) : happened = [] := by
  by_contra some
  obtain ⟨first, listed⟩ := List.exists_mem_of_ne_nil happened some
  have positive := List.count_pos_iff.mpr listed
  cases first with
  | hit x =>
    have none := congrArg Tally.hits (counters x)
    simp only [counted] at none
    omega
  | miss x =>
    have none := congrArg Tally.misses (counters x)
    simp only [counted] at none
    omega
  | invalidation x =>
    have none := congrArg Tally.invalidations (counters x)
    simp only [counted] at none
    omega
  | error => omega

end Steps

end Invariant

/- After each poll the exported metrics are faithful. -/
def ExportsOnce {β : Type} (ttls : Table Nat) (json : β → β) (s : Monitored β) (events : List (Event β)) : Prop :=
  ∀ before after, events = before ++ .poll :: after → Faithful (s.run ttls json (before ++ [.poll]))

/- Whenever a poll is followed by another one, nothing that counts has happened before it,
and by the later one all samples that were in the window are gone from it. -/
def Unrepeated {β : Type} (ttls : Table Nat) (json : β → β) (s : Monitored β) (events : List (Event β)) : Prop :=
  ∀ before between after, events = before ++ .poll :: (between ++ .poll :: after) →
    (s.run ttls json before).happened = [] ∧
    (s.run ttls json before).latencies.Disjoint (s.run ttls json (before ++ .poll :: between)).latencies

section Exports
variable {β : Type} {ttls : Table Nat} {json : β → β} {project : String} {server : RedisServer β}

theorem tally_plus_zero {a b : Tally} (zero : a.plus b = b) : a = ⟨0, 0, 0⟩ := by
  obtain ⟨hits, misses, invalidations⟩ := a
  obtain ⟨hits', misses', invalidations'⟩ := b
  simp only [Tally.plus, Tally.mk.injEq] at zero
  obtain ⟨h, m, i⟩ := zero
  simp only [Tally.mk.injEq]
  omega

theorem tally_zero_of_plus {a b : Tally} (zero : a.plus b = ⟨0, 0, 0⟩) : a = ⟨0, 0, 0⟩ ∧ b = ⟨0, 0, 0⟩ := by
  obtain ⟨hits, misses, invalidations⟩ := a
  obtain ⟨hits', misses', invalidations'⟩ := b
  simp only [Tally.plus, Tally.mk.injEq] at zero
  obtain ⟨h, m, i⟩ := zero
  simp only [Tally.mk.injEq]
  omega

/-- A poll adds everything that has been counted, and observes the whole window. -/
theorem poll_redis (s : Monitored β) :
    (∀ x : Resource, (s.step ttls json .poll).redis.counters.tally x.name =
      (s.redis.counters.tally x.name).plus (s.client.counters.tally x.name)) ∧
    (s.step ttls json .poll).redis.errors = s.redis.errors + s.client.errors ∧
    (s.step ttls json .poll).redis.latency = s.redis.latency ++ s.latencies :=
  ⟨fun x => syncRedisMetrics_tally s.collectMetrics s.redis x, rfl, rfl⟩

/-- A poll reports what has happened exactly if nothing was exported before it. -/
theorem poll_faithful_iff {s : Monitored β} (kept : Kept s) :
    Faithful (s.step ttls json .poll) ↔
      (∀ x : Resource, s.redis.counters.tally x.name = ⟨0, 0, 0⟩) ∧ s.redis.errors = 0 ∧
        (s.redis.latency ++ s.latencies).Nodup := by
  obtain ⟨counters, errors, latency⟩ := @poll_redis β ttls json s
  have happened : (s.step ttls json .poll).happened = s.happened := rfl
  constructor
  · intro faithful
    refine ⟨?_, ?_, latency ▸ faithful.latency⟩
    · intro x
      have exact' := faithful.counters x
      rw [counters x, happened, ← kept.counters x] at exact'
      exact tally_plus_zero exact'
    · have exact' := faithful.errors
      rw [errors, happened, kept.errors] at exact'
      omega
  · rintro ⟨none, zero, distinct⟩
    refine ⟨?_, ?_, latency.symm ▸ distinct⟩
    · intro x
      rw [counters x, none x, happened, ← kept.counters x]
      simp [Tally.plus]
    · rw [errors, zero, happened, kept.errors, Nat.zero_add]

/-- As long as nothing had happened at any poll, nothing is exported. -/
theorem exported_nothing (s : Monitored β) (fresh : s = initial project server) (events : List (Event β))
    (quiet : ∀ before between, events = before ++ .poll :: between → (s.run ttls json before).happened = []) :
    (∀ x : Resource, (s.run ttls json events).redis.counters.tally x.name = ⟨0, 0, 0⟩) ∧
      (s.run ttls json events).redis.errors = 0 := by
  induction events using List.reverseRecOn with
  | nil =>
    subst fresh
    exact ⟨fun _ => rfl, rfl⟩
  | append_singleton events event ih =>
    obtain ⟨counters, errors⟩ := ih (fun before between split =>
      quiet before (between ++ [event]) (by rw [split]; simp))
    rw [run_snoc]
    by_cases polls : event = .poll
    · subst polls
      have nothing := quiet events [] rfl
      have kept : Kept (s.run ttls json events) := run_kept (fresh ▸ kept_initial project server) events
      obtain ⟨added, failed, _⟩ := @poll_redis β ttls json (s.run ttls json events)
      refine ⟨?_, ?_⟩
      · intro x
        rw [added x, counters x, kept.counters x, nothing]
        rfl
      · rw [failed, errors, kept.errors, nothing]
        rfl
    · obtain ⟨same, _⟩ := @step_exports β ttls json (s.run ttls json events) event polls
      rw [same]
      exact ⟨counters, errors⟩

/-- What has been observed was in the window at some earlier poll. -/
theorem observed_earlier (s : Monitored β) (fresh : s = initial project server) (events : List (Event β))
    {sample : Sample} (observed : sample ∈ (s.run ttls json events).redis.latency) :
    ∃ before between, events = before ++ .poll :: between ∧ sample ∈ (s.run ttls json before).latencies := by
  induction events using List.reverseRecOn with
  | nil =>
    subst fresh
    contradiction
  | append_singleton events event ih =>
    rw [run_snoc] at observed
    by_cases polls : event = .poll
    · subst polls
      obtain old | new := List.mem_append.mp observed
      · obtain ⟨before, between, split, listed⟩ := ih old
        exact ⟨before, between ++ [.poll], by rw [split]; simp, listed⟩
      · exact ⟨events, [], rfl, new⟩
    · obtain ⟨same, _⟩ := @step_exports β ttls json (s.run ttls json events) event polls
      rw [same] at observed
      obtain ⟨before, between, split, listed⟩ := ih observed
      exact ⟨before, between ++ [event], by rw [split]; simp, listed⟩

theorem Kept.latencies_nodup {s : Monitored β} (kept : Kept s) : s.latencies.Nodup := by
  refine kept.numbered.imp ?_
  rintro a b fewer rfl
  exact Nat.lt_irrefl _ fewer

/-- If the windows of any two polls are disjoint, nothing is observed twice. -/
theorem observed_once (s : Monitored β) (fresh : s = initial project server) (events : List (Event β))
    (apart : ∀ before between after, events = before ++ .poll :: (between ++ .poll :: after) →
      (s.run ttls json before).latencies.Disjoint (s.run ttls json (before ++ .poll :: between)).latencies) :
    (s.run ttls json events).redis.latency.Nodup := by
  induction events using List.reverseRecOn with
  | nil =>
    subst fresh
    exact List.nodup_nil
  | append_singleton events event ih =>
    have once := ih (fun before between after split =>
      apart before between (after ++ [event]) (by rw [split]; simp))
    rw [run_snoc]
    by_cases polls : event = .poll
    · subst polls
      have kept : Kept (s.run ttls json events) := run_kept (fresh ▸ kept_initial project server) events
      change ((s.run ttls json events).redis.latency ++ (s.run ttls json events).latencies).Nodup
      refine List.nodup_append'.mpr ⟨once, kept.latencies_nodup, ?_⟩
      intro sample old new
      obtain ⟨before, between, split, listed⟩ := observed_earlier s fresh events old
      have disjoint := apart before between [] (by rw [split]; simp)
      rw [← split] at disjoint
      exact disjoint listed new
    · obtain ⟨same, _⟩ := @step_exports β ttls json (s.run ttls json events) event polls
      rw [same]
      exact once

end Exports

/-- Each event is exported once, and each latency observed once, exactly if no poll that has
something to report is followed by another one. -/
theorem exports_once_iff {β : Type} (ttls : Table Nat) (json : β → β) (project : String) (server : RedisServer β)
    (events : List (Event β)) :
    ExportsOnce ttls json (initial project server) events ↔
      Unrepeated ttls json (initial project server) events := by
  have kept := fun before => @run_kept β ttls json _ (kept_initial project server) before
  constructor
  · intro once before between after split
    -- The second of the two polls is faithful, so nothing was exported before it.
    have second := once (before ++ .poll :: between) after (by rw [split]; simp)
    rw [run_snoc, poll_faithful_iff (kept _)] at second
    obtain ⟨counters, errors, distinct⟩ := second
    have grown : Grown ((run ttls json (initial project server) before).step ttls json .poll)
        (run ttls json (initial project server) (before ++ .poll :: between)) := by
      rw [run_append]
      exact run_grown _ between
    obtain ⟨added, failed, observed⟩ := @poll_redis β ttls json (run ttls json (initial project server) before)
    refine ⟨?_, ?_⟩
    · apply nothing_happened
      · intro x
        obtain ⟨more, tally⟩ := grown.counters x
        rw [counters x, added x] at tally
        rw [← (kept before).counters x]
        exact (tally_zero_of_plus (tally_zero_of_plus tally.symm).1).2
      · have fewer := grown.errors
        rw [failed, errors] at fewer
        rw [← (kept before).errors]
        omega
    · intro sample early late
      have seen : sample ∈ (run ttls json (initial project server) (before ++ .poll :: between)).redis.latency := by
        apply grown.latency.subset
        rw [observed]
        exact List.mem_append_right _ early
      exact (List.nodup_append'.mp distinct).2.2 seen late
  · intro unrepeated before after split
    rw [run_snoc, poll_faithful_iff (kept _)]
    obtain ⟨counters, errors⟩ := @exported_nothing β ttls json project server _ rfl before (by
      intro earlier between inside
      exact (unrepeated earlier between after (by rw [split, inside]; simp)).1)
    refine ⟨counters, errors, ?_⟩
    have once := @observed_once β ttls json project server _ rfl (before ++ [.poll]) (by
      intro earlier between rest inside
      exact (unrepeated earlier between (rest ++ after) (by
        have whole : events = (before ++ [.poll]) ++ after := by rw [split]; simp
        rw [whole, inside]
        simp)).2)
    rw [run_snoc] at once
    exact once

/- A miss that two polls find. -/
def missedOnce : List (Event Unit) := [.command 0 true 1 (.get .servers), .poll, .poll]

theorem miss_exported_twice : ¬ ExportsOnce ∅ id (initial "admin" ∅) missedOnce := by
  intro once
  have counters := (once [.command 0 true 1 (.get .servers), .poll] [] rfl).counters .servers
  revert counters
  decide

/- What the task has seen at its last poll is what it has exported, and no more than what
has been counted by now. -/
structure Tracked {β : Type} (s : Monitored β) : Prop where
  exported : ∀ x : Resource, s.cache.counters.tally x.name = s.cache.last.tally x.name
  behind : ∀ x : Resource, ∃ more, counted s.happened x = (s.cache.last.tally x.name).plus more

section Siblings
variable {β : Type} {ttls : Table Nat} {json : β → β}

theorem step_happened (s : Monitored β) (event : Event β) :
    ∃ more, (s.step ttls json event).happened = s.happened ++ more := by
  cases event with
  | poll => exact ⟨[], (List.append_nil _).symm⟩
  | command now ok latency command =>
    cases command with
    | get x => exact ⟨_, List.append_assoc ..⟩
    | set x value => exact ⟨_, List.append_assoc ..⟩
    | invalidate x => exact ⟨_, List.append_assoc ..⟩

/-- A poll brings `cache_*` up to what has happened. -/
theorem poll_tracked {s : Monitored β} (kept : Kept s) (tracked : Tracked s) (x : Resource) :
    (s.step ttls json .poll).cache.counters.tally x.name = counted s.happened x ∧
    (s.step ttls json .poll).cache.last.tally x.name = counted s.happened x := by
  have snapshot : s.collectMetrics.counters.tally x.name = counted s.happened x := kept.counters x
  rw [← snapshot]
  apply sync_catches_up (tracked.exported x)
  rw [snapshot]
  exact tracked.behind x

theorem step_tracked {s : Monitored β} (kept : Kept s) (tracked : Tracked s) (event : Event β) :
    Tracked (s.step ttls json event) := by
  by_cases polls : event = .poll
  · subst polls
    have poll := fun x => @poll_tracked β ttls json s kept tracked x
    refine ⟨fun x => (poll x).1.trans (poll x).2.symm, fun x => ⟨⟨0, 0, 0⟩, ?_⟩⟩
    rw [(poll x).2]
    rfl
  · obtain ⟨_, same⟩ := @step_exports β ttls json s event polls
    obtain ⟨events, grown⟩ := @step_happened β ttls json s event
    refine ⟨?_, ?_⟩
    · rw [same]
      exact tracked.exported
    · intro x
      obtain ⟨more, behind⟩ := tracked.behind x
      refine ⟨more.plus (counted events x), ?_⟩
      rw [grown, counted_append, behind, same]
      simp [Tally.plus, Nat.add_assoc]

theorem run_tracked {s : Monitored β} (kept : Kept s) (tracked : Tracked s) (events : List (Event β)) :
    Tracked (s.run ttls json events) := by
  induction events generalizing s with
  | nil => exact tracked
  | cons event events ih => exact ih (step_kept kept event) (step_tracked kept tracked event)

/-- The counters `cache_*` of the same task, to which it adds differences, are exact after
every poll. -/
theorem cache_counters_exact (project : String) (server : RedisServer β) (events : List (Event β)) (x : Resource) :
    (run ttls json (initial project server) (events ++ [.poll])).cache.counters.tally x.name =
      counted (run ttls json (initial project server) (events ++ [.poll])).happened x := by
  have kept := kept_initial project server
  have tracked : Tracked (initial project server) := ⟨fun _ => rfl, fun _ => ⟨⟨0, 0, 0⟩, rfl⟩⟩
  rw [run_snoc]
  exact (poll_tracked (run_kept kept events) (run_tracked kept tracked events) x).1

end Siblings

end Monitored

end VMachine.Cache
