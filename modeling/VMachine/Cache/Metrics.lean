import Mathlib.Algebra.Ring.Rat
import Mathlib.Algebra.Order.Ring.Rat
import VMachine.Cache.Export
import VMachine.Cache.Reconfiguration

/-! The metrics `cache_*` of a process, whatever its cache is kept in. Its counters only grow, and the
task adds at each poll what is new since the last one; the gauge `cache_hit_ratio` is set anew. -/
namespace VMachine.Cache
open Monitored (sync_catches_up)

/- `collect_metrics`, as far as `cache_*` is made of it: the counters of the configured backend. -/
def collectMetrics {β : Type} (s : State β Int) : Snapshot :=
  match s.backend with
  | none => ⟨⟨∅, ∅, ∅⟩, 0, []⟩
  | some (.memory _) => ⟨s.counters, 0, []⟩
  | some (.redis client _) => ⟨client.counters, client.errors, []⟩

def hitRatio (tally : Tally) : ℚ :=
  if tally.hits + tally.misses ≠ 0 then tally.hits / (tally.hits + tally.misses) else 1

/- `cache_hits`, `cache_misses` and `cache_invalidations`, and `cache_hit_ratio`. -/
structure Exported where
  cache : CacheMetrics
  hitRatio : Table ℚ

/- One resource in the loop of `_sync_cache_metrics`. Nothing in the loop raises, and a poll is not
interrupted. -/
def exportResource (snapshot : Snapshot) (e : Exported) (x : Resource) : Exported where
  cache := syncResource snapshot e.cache x
  hitRatio := e.hitRatio.insert x.name (hitRatio (snapshot.counters.tally x.name))

def exportAll (snapshot : Snapshot) (e : Exported) : Exported := Resource.all.foldl (exportResource snapshot) e

/- A call of the cache, something that the `TTLCache` of a service has counted, or a poll. -/
inductive Activity (β : Type) where
  | call (c : TimedCall β)
  | hit (name : String)
  | miss (name : String)
  | invalidation (name : String)
  | poll

structure Process (β : Type) where
  state : State β Int
  exported : Exported

namespace Process
variable {β : Type}

/- The task is started, with nothing exported and nothing seen yet. -/
def started (s : State β Int) : Process β := ⟨s, ⟨⟨∅, ∅, ∅⟩, ⟨∅, ∅, ∅⟩⟩, ∅⟩

/- The counters of cache.py are shared by all caches of the process. -/
def count (p : Process β) (counters : Counters) : Process β := { p with state := { p.state with counters := counters } }

def step (json : β → β) (p : Process β) : Activity β → Process β
  | .call c => { p with state := p.state.perform json c }
  | .hit name => p.count (p.state.counters.hit name)
  | .miss name => p.count (p.state.counters.miss name)
  | .invalidation name => p.count (p.state.counters.invalidated name)
  | .poll => { p with exported := exportAll (collectMetrics p.state) p.exported }

def run (json : β → β) (p : Process β) (activities : List (Activity β)) : Process β := activities.foldl (step json) p

end Process

section Growth
variable {β : Type}

/- Counters that have only been incremented. -/
def Counters.Grows (n m : Counters) : Prop := ∀ name, ∃ more, m.tally name = (n.tally name).plus more

theorem Counters.Grows.refl (n : Counters) : n.Grows n := fun _ => ⟨⟨0, 0, 0⟩, rfl⟩

theorem hit_grows (n : Counters) (name : String) : n.Grows (n.hit name) := by
  intro other
  by_cases same : other = name
  · exact ⟨⟨1, 0, 0⟩, by simp [hit_tally, same, Tally.plus]⟩
  · exact ⟨⟨0, 0, 0⟩, by simp [hit_tally, same, Tally.plus]⟩

theorem miss_grows (n : Counters) (name : String) : n.Grows (n.miss name) := by
  intro other
  by_cases same : other = name
  · exact ⟨⟨0, 1, 0⟩, by simp [miss_tally, same, Tally.plus]⟩
  · exact ⟨⟨0, 0, 0⟩, by simp [miss_tally, same, Tally.plus]⟩

theorem invalidated_grows (n : Counters) (name : String) : n.Grows (n.invalidated name) := by
  intro other
  by_cases same : other = name
  · exact ⟨⟨0, 0, 1⟩, by simp [invalidated_tally, same, Tally.plus]⟩
  · exact ⟨⟨0, 0, 0⟩, by simp [invalidated_tally, same, Tally.plus]⟩

theorem store_get_grows (now : Int) (key : String) (c : TTLCache β Int) (n : Counters) :
    n.Grows (c.get now key n).2.2 := by
  rw [(c.get_effect now key n).2.1]
  split
  · exact hit_grows n c.name
  · exact miss_grows n c.name

theorem client_get_grows (ok : Bool) (now : Int) (resource : String) (client : RedisCache)
    (server : RedisServer β Int) : client.counters.Grows (client.get ok now resource server).2.counters := by
  cases ok with
  | false => exact miss_grows client.counters resource
  | true =>
    rw [(client.get_effect now resource server).2]
    split
    · exact hit_grows client.counters resource
    · exact miss_grows client.counters resource

theorem client_invalidate_grows (ok : Bool) (resource : String) (client : RedisCache) (server : RedisServer β Int) :
    client.counters.Grows (client.invalidate ok resource server).1.counters := by
  cases ok <;> exact invalidated_grows client.counters resource

theorem cacheGet_grows (ok : Bool) (now : Int) (resource : String) (s : State β Int) :
    (collectMetrics s).counters.Grows (collectMetrics (cacheGet ok now resource s).2).counters := by
  cases backend : s.backend with
  | none =>
    simp only [cacheGet, backend]
    exact .refl _
  | some b =>
    cases b with
    | memory stores =>
      cases known : stores.lookup resource with
      | none =>
        simp only [cacheGet, backend, known]
        exact .refl _
      | some store =>
        simp only [cacheGet, backend, known, collectMetrics]
        exact store_get_grows now resource store s.counters
    | redis client server =>
      simp only [cacheGet, backend, collectMetrics]
      exact client_get_grows ok now resource client server

theorem cacheSet_grows (ok : Bool) (now : Int) (json : β → β) (resource : String) (value : β) (s : State β Int) :
    (collectMetrics s).counters.Grows (collectMetrics (cacheSet ok now json resource value s)).counters := by
  cases backend : s.backend with
  | none =>
    simp only [cacheSet, backend]
    exact .refl _
  | some b =>
    cases b with
    | memory stores =>
      cases known : stores.lookup resource with
      | none =>
        simp only [cacheSet, backend, known]
        exact .refl _
      | some store =>
        simp only [cacheSet, backend, known, collectMetrics]
        exact .refl _
    | redis client server =>
      simp only [cacheSet, backend, collectMetrics]
      cases ok <;> exact .refl _

theorem cacheInvalidate_grows (ok : Bool) (resource : String) (s : State β Int) :
    (collectMetrics s).counters.Grows (collectMetrics (cacheInvalidate ok resource s)).counters := by
  cases backend : s.backend with
  | none =>
    simp only [cacheInvalidate, backend]
    exact .refl _
  | some b =>
    cases b with
    | memory stores =>
      cases known : stores.lookup resource with
      | none =>
        simp only [cacheInvalidate, backend, known]
        exact .refl _
      | some store =>
        simp only [cacheInvalidate, backend, known, collectMetrics, TTLCache.invalidateAll]
        exact invalidated_grows s.counters store.name
    | redis client server =>
      simp only [cacheInvalidate, backend, collectMetrics]
      exact client_invalidate_grows ok resource client server

/-- No call of the cache takes anything back. -/
theorem perform_grows (json : β → β) (s : State β Int) (c : TimedCall β) :
    (collectMetrics s).counters.Grows (collectMetrics (s.perform json c)).counters := by
  unfold State.perform
  split
  · exact .refl _
  · exact cacheSet_grows _ _ _ _ _ _
  · exact cacheGet_grows _ _ _ _
  · exact cacheInvalidate_grows _ _ _

/-- The counters of cache.py are collected with the memory backend only. -/
theorem count_grows (p : Process β) {counters : Counters} (grows : p.state.counters.Grows counters) :
    (collectMetrics p.state).counters.Grows (collectMetrics (p.count counters).state).counters := by
  cases backend : p.state.backend with
  | none =>
    simp only [Process.count, collectMetrics, backend]
    exact .refl _
  | some b =>
    cases b with
    | memory stores =>
      simp only [Process.count, collectMetrics, backend]
      exact grows
    | redis client server =>
      simp only [Process.count, collectMetrics, backend]
      exact .refl _

end Growth

section Polls
variable {β : Type} {json : β → β}

theorem exportAll_cache (snapshot : Snapshot) (e : Exported) :
    (exportAll snapshot e).cache = syncCacheMetrics snapshot e.cache := rfl

theorem exportAll_hitRatio (snapshot : Snapshot) (e : Exported) (x : Resource) :
    (exportAll snapshot e).hitRatio.lookup x.name = some (hitRatio (snapshot.counters.tally x.name)) := by
  cases x <;> simp [exportAll, Resource.all, exportResource, AList.lookup_insert, AList.lookup_insert_ne, Resource.name]

/- What has been exported is what was seen last, and no more than what is counted by now. -/
structure Process.Tracks (p : Process β) : Prop where
  exported : ∀ x : Resource, p.exported.cache.counters.tally x.name = p.exported.cache.last.tally x.name
  behind : ∀ x : Resource, ∃ more,
    (collectMetrics p.state).counters.tally x.name = (p.exported.cache.last.tally x.name).plus more

theorem started_tracks (s : State β Int) : (Process.started s).Tracks where
  exported _ := rfl
  behind x := ⟨(collectMetrics s).counters.tally x.name, by simp [Tally.plus, Process.started, Counters.tally]⟩

theorem Process.Tracks.grown {p : Process β} (tracks : p.Tracks) {s : State β Int}
    (grows : (collectMetrics p.state).counters.Grows (collectMetrics s).counters) :
    (Process.mk s p.exported).Tracks := by
  refine ⟨tracks.exported, fun x => ?_⟩
  obtain ⟨more, behind⟩ := tracks.behind x
  obtain ⟨new, grown⟩ := grows x.name
  refine ⟨more.plus new, ?_⟩
  rw [grown, behind]
  simp [Tally.plus, Nat.add_assoc]

theorem step_tracks {p : Process β} (tracks : p.Tracks) (activity : Activity β) : (p.step json activity).Tracks := by
  cases activity with
  | call c => exact tracks.grown (perform_grows json p.state c)
  | hit name => exact tracks.grown (count_grows p (hit_grows _ name))
  | miss name => exact tracks.grown (count_grows p (miss_grows _ name))
  | invalidation name => exact tracks.grown (count_grows p (invalidated_grows _ name))
  | poll =>
    have caught := fun x => sync_catches_up (tracks.exported x) (tracks.behind x)
    rw [← exportAll_cache] at caught
    refine ⟨fun x => (caught x).1.trans (caught x).2.symm, fun x => ⟨⟨0, 0, 0⟩, (caught x).2.symm⟩⟩

theorem run_tracks {p : Process β} (tracks : p.Tracks) (activities : List (Activity β)) : (p.run json activities).Tracks := by
  induction activities generalizing p with
  | nil => exact tracks
  | cons activity activities ih => exact ih (step_tracks tracks activity)

/-- In every run, after every poll `cache_*` is what is collected at that poll, resource by resource,
and the gauge is the ratio of the hits among all reads so far, or one before the first. -/
theorem polls_export_collected (json : β → β) (s : State β Int) (before : List (Activity β)) (x : Resource) :
    let collected := (collectMetrics ((Process.started s).run json before).state).counters.tally x.name
    let exported := ((Process.started s).run json (before ++ [.poll])).exported
    exported.cache.counters.tally x.name = collected ∧
    exported.hitRatio.lookup x.name = some (if collected.hits + collected.misses = 0 then (1 : ℚ)
      else (collected.hits : ℚ) / (collected.hits + collected.misses)) := by
  intro collected exported
  have tracks : ((Process.started s).run json before).Tracks := run_tracks (started_tracks s) before
  have polled : exported = exportAll (collectMetrics ((Process.started s).run json before).state)
      ((Process.started s).run json before).exported := by
    simp only [exported, Process.run, List.foldl_append, List.foldl_cons, List.foldl_nil, Process.step]
  rw [polled]
  constructor
  · rw [exportAll_cache]
    exact (sync_catches_up (tracks.exported x) (tracks.behind x)).1
  · rw [exportAll_hitRatio, hitRatio, ite_not]

end Polls

end VMachine.Cache
