import Mathlib.Data.List.Induction
import Mathlib.Order.Basic
import Mathlib.Data.Int.Order.Basic
import VMachine.Cache.Equivalence

/-! One `TTLCache` over a whole history of calls. The abstract cache binds each key to what was last
written to it and never forgets a binding because it has expired; the dictionary of the code drops
expired entries on reads and on evictions, and the two answer every read alike. Nothing is asked of
the addition of a lifetime to an instant, so rounding does not matter. -/
namespace VMachine.Cache

inductive Operation (β τ : Type) where
  | get (key : String)
  | set (key : String) (value : β)
  | setTtl (key : String) (value : β) (ttl : τ)
  | delete (key : String)
  | clear
  | invalidateAll
  | evictExpired
  deriving DecidableEq

namespace Operation
variable {β τ : Type}

def isGet : Operation β τ → Bool
  | .get _ => true
  | _ => false

def isEviction : Operation β τ → Bool
  | .evictExpired => true
  | _ => false

/- The value and the lifetime written under the key; `ttl` is the lifetime of the cache. -/
def stores (ttl : τ) (key : String) : Operation β τ → Option (β × τ)
  | .set other value => if other = key then some (value, ttl) else none
  | .setTtl other value lifetime => if other = key then some (value, lifetime) else none
  | _ => none

def removes (key : String) : Operation β τ → Bool
  | .delete other => other = key
  | .clear => true
  | .invalidateAll => true
  | _ => false

end Operation

/- Every call with the reading of the clock that it makes. -/
abbrev History (β τ : Type) := List (τ × Operation β τ)

namespace TTLCache
section Calls
variable {β τ : Type} [LE τ] [DecidableLE τ] [Add τ]

/- The answer of a call, which only a `get` has, with the cache and the counters it leaves. -/
def perform (now : τ) (c : TTLCache β τ) (n : Counters) :
    Operation β τ → Option (Option β) × TTLCache β τ × Counters
  | .get key => let (found, c, n) := c.get now key n; (some found, c, n)
  | .set key value => (none, c.set now key value, n)
  | .setTtl key value ttl => (none, c.setTtl now key value ttl, n)
  | .delete key => (none, c.delete key, n)
  | .clear => (none, c.clear, n)
  | .invalidateAll => let (c, n) := c.invalidateAll n; (none, c, n)
  | .evictExpired => (none, (c.evictExpired now).2, n)

def after (c : TTLCache β τ) (n : Counters) : History β τ → TTLCache β τ × Counters
  | [] => (c, n)
  | (now, op) :: rest =>
    let (_, c, n) := c.perform now n op
    c.after n rest

/- The answers of the `get` calls, in order. -/
def answers (c : TTLCache β τ) (n : Counters) : History β τ → List (Option β)
  | [] => []
  | (now, op) :: rest =>
    let (answer, c, n) := c.perform now n op
    answer.toList ++ c.answers n rest

end Calls

def seen {β τ : Type} [LE τ] [DecidableLE τ] (c : TTLCache β τ) (key : String) (now : τ) : Option β :=
  (c.store.lookup key).bind (fun e => e.seen now)

end TTLCache

/- `TTLCache(ttl_seconds, name)`. -/
def ttlCache {β τ : Type} (ttl : τ) (name : String) : TTLCache β τ := ⟨ttl, name, ∅⟩

/- The abstract cache: what is bound to each key, expired or not. -/
abbrev Bindings (β τ : Type) := String → Option (Entry β τ)

namespace Bindings
section Calls
variable {β τ : Type} [Add τ]

def perform (ttl now : τ) (held : Bindings β τ) (op : Operation β τ) : Bindings β τ := fun key =>
  match op.stores ttl key with
  | some (value, lifetime) => some ⟨value, now + lifetime⟩
  | none => if op.removes key then none else held key

def after (ttl : τ) (held : Bindings β τ) (history : History β τ) : Bindings β τ :=
  history.foldl (fun held call => held.perform ttl call.1 call.2) held

end Calls

variable {β τ : Type} [LE τ] [DecidableLE τ]

def seen (held : Bindings β τ) (key : String) (now : τ) : Option β := (held key).bind (fun e => e.seen now)

def answers [Add τ] (ttl : τ) (held : Bindings β τ) : History β τ → List (Option β)
  | [] => []
  | (now, .get key) :: rest => held.seen key now :: held.answers ttl rest
  | (now, op) :: rest => (held.perform ttl now op).answers ttl rest

end Bindings

/- The last `set` or `set_ttl` of the key stored the value, its lifetime is not over at the given
time, and nothing has removed the key since. -/
def Current {β τ : Type} [LT τ] [Add τ] (ttl : τ) (history : History β τ) (key : String) (now : τ) (value : β) : Prop :=
  ∃ before written op since lifetime,
    history = before ++ (written, op) :: since ∧ op.stores ttl key = some (value, lifetime) ∧
    now < written + lifetime ∧
    ∀ call ∈ since, call.2.stores ttl key = none ∧ call.2.removes key = false

section Eviction
variable {β τ : Type}

theorem erase_each_lookup (keys : List String) (store : Table (Entry β τ)) (key : String) :
    (keys.foldl (fun store key => store.erase key) store).lookup key =
      if key ∈ keys then none else store.lookup key := by
  induction keys generalizing store with
  | nil => simp
  | cons first keys ih =>
    rw [List.foldl_cons, ih]
    by_cases same : key = first
    · subst same
      simp [AList.lookup_erase]
    · simp [same, AList.lookup_erase_ne same]

variable [LinearOrder τ]

theorem mem_expired_keys (now : τ) (store : Table (Entry β τ)) (key : String) :
    key ∈ (store.entries.filter (fun e => e.2.isExpired now)).map Sigma.fst ↔
      ∃ entry, store.lookup key = some entry ∧ entry.isExpired now = true := by
  simp only [List.mem_map, List.mem_filter]
  constructor
  · rintro ⟨⟨_, entry⟩, ⟨member, expired⟩, rfl⟩
    exact ⟨entry, AList.mem_lookup_iff.mpr member, expired⟩
  · rintro ⟨entry, found, expired⟩
    exact ⟨⟨key, entry⟩, ⟨AList.mem_lookup_iff.mp found, expired⟩, rfl⟩

/-- Nothing that is evicted could still be seen. -/
theorem evictExpired_seen (now : τ) (c : TTLCache β τ) (key : String) {t : τ} (later : now ≤ t) :
    (c.evictExpired now).2.seen key t = c.seen key t := by
  simp only [TTLCache.seen, TTLCache.evictExpired, erase_each_lookup, mem_expired_keys]
  split
  case isTrue gone =>
    obtain ⟨entry, found, expired⟩ := gone
    rw [found, Option.bind_none, Option.bind_some, Entry.seen_expired expired later]
  case isFalse => rfl

end Eviction

section Refinement
variable {β τ : Type} [LinearOrder τ]

theorem get_seen (now : τ) (read key : String) (c : TTLCache β τ) (n : Counters) {t : τ} (later : now ≤ t) :
    (c.get now read n).2.1.seen key t = c.seen key t := by
  by_cases same : key = read
  · subst same
    exact (c.get_effect now key n).2.2.2.2 t later
  · have kept : (c.get now read n).2.1.store.lookup key = c.store.lookup key := by
      unfold TTLCache.get
      split
      · rfl
      · split
        · exact AList.lookup_erase_ne same
        · rfl
    rw [TTLCache.seen, kept, TTLCache.seen]

theorem delete_seen (deleted key : String) (c : TTLCache β τ) (t : τ) :
    (c.delete deleted).seen key t = if deleted = key then none else c.seen key t := by
  by_cases same : deleted = key
  · subst same
    simp [TTLCache.delete, TTLCache.seen, AList.lookup_erase]
  · rw [if_neg same]
    simp only [TTLCache.delete, TTLCache.seen]
    rw [AList.lookup_erase_ne (Ne.symm same)]

variable [Add τ]

theorem setTtl_seen (now : τ) (written key : String) (value : β) (lifetime : τ) (c : TTLCache β τ) (t : τ) :
    (c.setTtl now written value lifetime).seen key t =
      if written = key then (Entry.mk value (now + lifetime)).seen t else c.seen key t := by
  by_cases same : written = key
  · subst same
    simp [TTLCache.setTtl, TTLCache.seen, AList.lookup_insert]
  · rw [if_neg same]
    simp only [TTLCache.setTtl, TTLCache.seen]
    rw [AList.lookup_insert_ne (Ne.symm same)]

/-- Where the two caches show the same from some time on, they do so after any call at that time. -/
theorem perform_seen {c : TTLCache β τ} {held : Bindings β τ} {now : τ}
    (agree : ∀ key t, now ≤ t → c.seen key t = held.seen key t) (n : Counters) (op : Operation β τ) (key : String)
    (t : τ) (later : now ≤ t) :
    (c.perform now n op).2.1.seen key t = (held.perform c.ttl now op).seen key t := by
  have same := agree key t later
  cases op with
  | get read =>
    have kept : (c.perform now n (.get read)).2.1.seen key t = c.seen key t := get_seen now read key c n later
    rw [kept, same]
    rfl
  | set written value =>
    have stored := setTtl_seen now written key value c.ttl c t
    simp only [TTLCache.perform, TTLCache.set, stored, same, Bindings.seen, Bindings.perform, Operation.stores]
    split <;> rfl
  | setTtl written value lifetime =>
    have stored := setTtl_seen now written key value lifetime c t
    simp only [TTLCache.perform, stored, same, Bindings.seen, Bindings.perform, Operation.stores]
    split <;> rfl
  | delete deleted =>
    have dropped := delete_seen deleted key c t
    simp only [TTLCache.perform, dropped, same, Bindings.seen, Bindings.perform, Operation.stores,
      Operation.removes, decide_eq_true_eq]
    split <;> rfl
  | clear => rfl
  | invalidateAll => rfl
  | evictExpired =>
    have kept : (c.perform now n .evictExpired).2.1.seen key t = c.seen key t := evictExpired_seen now c key later
    rw [kept, same]
    rfl

theorem perform_ttl (now : τ) (c : TTLCache β τ) (n : Counters) (op : Operation β τ) :
    (c.perform now n op).2.1.ttl = c.ttl := by
  cases op with
  | get key => exact (c.get_effect now key n).2.2.2.1
  | _ => rfl

theorem perform_answer {c : TTLCache β τ} {held : Bindings β τ} {now : τ}
    (agree : ∀ key t, now ≤ t → c.seen key t = held.seen key t) (n : Counters) (op : Operation β τ)
    (rest : History β τ) :
    (c.perform now n op).1.toList ++ (held.perform c.ttl now op).answers c.ttl rest =
      held.answers c.ttl ((now, op) :: rest) := by
  cases op with
  | get key =>
    have found : (c.get now key n).1 = held.seen key now := by
      rw [(c.get_effect now key n).1]
      exact agree key now (le_refl now)
    have answer : (c.perform now n (.get key)).1 = some (held.seen key now) := by
      rw [← found]
      rfl
    rw [answer]
    rfl
  | _ => rfl

/-- The code's cache answers as the abstract one does, from any two states that agree. -/
theorem refines {c : TTLCache β τ} {held : Bindings β τ} (n : Counters) (start : τ) (history : History β τ)
    (ordered : (start :: history.map Prod.fst).Pairwise (· ≤ ·))
    (agree : ∀ key t, start ≤ t → c.seen key t = held.seen key t) :
    c.answers n history = held.answers c.ttl history ∧
    ∀ key t, start ≤ t → (∀ call ∈ history, call.1 ≤ t) →
      (c.after n history).1.seen key t = (held.after c.ttl history).seen key t := by
  induction history generalizing c held n start with
  | nil => exact ⟨rfl, fun key t later _ => agree key t later⟩
  | cons call rest ih =>
    obtain ⟨now, op⟩ := call
    have ordered' : (now :: rest.map Prod.fst).Pairwise (· ≤ ·) := ordered.of_cons
    have begun : start ≤ now := List.rel_of_pairwise_cons ordered (by simp)
    have agree' : ∀ key t, now ≤ t → c.seen key t = held.seen key t :=
      fun key t later => agree key t (le_trans begun later)
    obtain ⟨answered, left⟩ := ih (c.perform now n op).2.2 now ordered' (perform_seen agree' n op)
    rw [perform_ttl] at answered left
    constructor
    · rw [← perform_answer agree' n op rest, ← answered]
      rfl
    · intro key t _ bound
      have final := left key t (bound (now, op) (by simp)) (fun call member => bound call (by simp [member]))
      exact final

end Refinement

section Bound
variable {β τ : Type} [Add τ]

theorem after_concat (ttl : τ) (held : Bindings β τ) (history : History β τ) (call : τ × Operation β τ) :
    held.after ttl (history ++ [call]) = (held.after ttl history).perform ttl call.1 call.2 := by
  simp [Bindings.after]

theorem after_unchanged {ttl : τ} {key : String} (since : History β τ)
    (untouched : ∀ call ∈ since, call.2.stores ttl key = none ∧ call.2.removes key = false)
    (held : Bindings β τ) : held.after ttl since key = held key := by
  induction since generalizing held with
  | nil => rfl
  | cons call since ih =>
    obtain ⟨stored, removed⟩ := untouched call (by simp)
    have first : held.perform ttl call.1 call.2 key = held key := by simp [Bindings.perform, stored, removed]
    have rest := ih (fun other member => untouched other (by simp [member])) (held.perform ttl call.1 call.2)
    rw [← first]
    exact rest

/-- A key is bound to the last write of it, unless it was removed later. -/
theorem bound_iff (ttl : τ) (history : History β τ) (key : String) (entry : Entry β τ) :
    Bindings.after ttl (fun _ => none) history key = some entry ↔
      ∃ before written op since lifetime,
        history = before ++ (written, op) :: since ∧ op.stores ttl key = some (entry.value, lifetime) ∧
        entry.expiresAt = written + lifetime ∧
        ∀ call ∈ since, call.2.stores ttl key = none ∧ call.2.removes key = false := by
  constructor
  · induction history using List.reverseRecOn with
    | nil => simp [Bindings.after]
    | append_singleton history call ih =>
      rw [after_concat]
      intro bound
      simp only [Bindings.perform] at bound
      split at bound
      case h_1 value lifetime stored =>
        cases bound
        exact ⟨history, call.1, call.2, [], lifetime, rfl, stored, rfl, by simp⟩
      case h_2 stored =>
        split at bound
        · cases bound
        · rename_i removed
          obtain ⟨before, written, op, since, lifetime, rfl, stores, expires, untouched⟩ := ih bound
          refine ⟨before, written, op, since ++ [call], lifetime, by simp, stores, expires, ?_⟩
          intro other member
          rcases List.mem_append.mp member with earlier | last
          · exact untouched other earlier
          · rw [List.mem_singleton.mp last]
            exact ⟨stored, by simpa using removed⟩
  · rintro ⟨before, written, op, since, lifetime, rfl, stores, expires, untouched⟩
    have split : Bindings.after ttl (fun _ => none) (before ++ (written, op) :: since) =
        Bindings.after ttl ((Bindings.after ttl (fun _ => none) before).perform ttl written op) since := by
      simp [Bindings.after]
    rw [split, after_unchanged since untouched]
    simp only [Bindings.perform, stores, ← expires]

theorem current_iff [LinearOrder τ] (ttl : τ) (history : History β τ) (key : String) (now : τ) (value : β) :
    (Bindings.after ttl (fun _ => none) history).seen key now = some value ↔ Current ttl history key now value := by
  simp only [Bindings.seen, Option.bind_eq_some_iff, bound_iff]
  constructor
  · rintro ⟨entry, ⟨before, written, op, since, lifetime, parts, stores, expires, untouched⟩, visible⟩
    obtain ⟨stored, deadline⟩ := entry
    rw [Entry.seen_mk] at visible
    split at visible
    · rename_i alive
      cases visible
      exact ⟨before, written, op, since, lifetime, parts, stores, expires ▸ alive, untouched⟩
    · cases visible
  · rintro ⟨before, written, op, since, lifetime, parts, stores, alive, untouched⟩
    refine ⟨⟨value, written + lifetime⟩, ⟨before, written, op, since, lifetime, parts, stores, rfl, untouched⟩, ?_⟩
    rw [Entry.seen_mk, if_pos alive]

end Bound

section Evictions
variable {β τ : Type} [LinearOrder τ] [Add τ]

/-- The abstract cache does not notice evictions. -/
theorem answers_without_evictions (ttl : τ) (held : Bindings β τ) (history : History β τ) :
    held.answers ttl (history.filter (fun call => !call.2.isEviction)) = held.answers ttl history := by
  induction history generalizing held with
  | nil => rfl
  | cons call history ih =>
    obtain ⟨now, op⟩ := call
    cases op with
    | get key => exact congrArg (held.seen key now :: ·) (ih held)
    | evictExpired => exact ih held
    | set key value => exact ih _
    | setTtl key value lifetime => exact ih _
    | delete key => exact ih _
    | clear => exact ih _
    | invalidateAll => exact ih _

end Evictions

section Counting
variable {β τ : Type} [LinearOrder τ] [Add τ]

/- The reads of caches of this name that have been counted. -/
def Counters.reads (n : Counters) (name : String) : Nat := (n.tally name).hits + (n.tally name).misses

theorem perform_name (now : τ) (c : TTLCache β τ) (n : Counters) (op : Operation β τ) :
    (c.perform now n op).2.1.name = c.name := by
  cases op with
  | get key => exact (c.get_effect now key n).2.2.1
  | _ => rfl

theorem perform_reads (now : τ) (c : TTLCache β τ) (n : Counters) (op : Operation β τ) :
    (c.perform now n op).2.2.reads c.name = n.reads c.name + if op.isGet then 1 else 0 := by
  cases op with
  | get key =>
    have counters : (c.perform now n (.get key)).2.2 = (c.get now key n).2.2 := rfl
    rw [counters, (c.get_effect now key n).2.1]
    split
    · simp only [Counters.reads, hit_tally, Operation.isGet, if_true]
      omega
    · simp only [Counters.reads, miss_tally, Operation.isGet, if_true]
      omega
  | invalidateAll =>
    have counters : (c.perform now n .invalidateAll).2.2 = n.invalidated c.name := rfl
    rw [counters]
    simp [Counters.reads, invalidated_tally, Operation.isGet]
  | _ => rfl

theorem after_reads (c : TTLCache β τ) (n : Counters) (history : History β τ) :
    (c.after n history).2.reads c.name = n.reads c.name + history.countP (fun call => call.2.isGet) := by
  induction history generalizing c n with
  | nil => rfl
  | cons call history ih =>
    obtain ⟨now, op⟩ := call
    have rest := ih (c.perform now n op).2.1 (c.perform now n op).2.2
    rw [perform_name, perform_reads] at rest
    have unfolded : (c.after n ((now, op) :: history)).2 =
        ((c.perform now n op).2.1.after (c.perform now n op).2.2 history).2 := rfl
    rw [unfolded, rest, List.countP_cons, Nat.add_assoc, Nat.add_comm (List.countP _ _)]

end Counting

section Fresh
variable {β τ : Type} [LinearOrder τ] [Add τ]

theorem fresh_refines (ttl : τ) (name : String) (n : Counters) (history : History β τ)
    (ordered : (history.map Prod.fst).Pairwise (· ≤ ·)) :
    (ttlCache ttl name).answers n history = Bindings.answers ttl (fun _ => none) history ∧
    ∀ key t, (∀ call ∈ history, call.1 ≤ t) →
      ((ttlCache ttl name).after n history).1.seen key t = (Bindings.after ttl (fun _ => none) history).seen key t := by
  cases history with
  | nil => exact ⟨rfl, fun _ _ _ => rfl⟩
  | cons call rest =>
    have started : (call.1 :: (call :: rest).map Prod.fst).Pairwise (· ≤ ·) := by
      refine List.pairwise_cons.mpr ⟨fun t member => ?_, ordered⟩
      rcases List.mem_cons.mp member with same | later
      · exact le_of_eq same.symm
      · exact List.rel_of_pairwise_cons ordered later
    have empty : ∀ key t, call.1 ≤ t →
        (ttlCache ttl name : TTLCache β τ).seen key t = Bindings.seen (fun _ => none) key t := fun _ _ _ => rfl
    obtain ⟨answered, left⟩ := refines n call.1 (call :: rest) started empty
    exact ⟨answered, fun key t bound => left key t (bound call (by simp)) bound⟩

/-- A read returns what the history says is current, evictions change no answer, and every read is
counted once and nothing else is. -/
theorem ttlCache_refines_history (ttl : τ) (name : String) (n : Counters) (history : History β τ)
    (ordered : (history.map Prod.fst).Pairwise (· ≤ ·)) :
    (∀ earlier now key later, history = earlier ++ (now, .get key) :: later → ∀ value,
      (((ttlCache ttl name).after n earlier).1.get now key ((ttlCache ttl name).after n earlier).2).1 = some value ↔
        Current ttl earlier key now value) ∧
    (∀ other : History β τ, (other.map Prod.fst).Pairwise (· ≤ ·) →
      other.filter (fun call => !call.2.isEviction) = history.filter (fun call => !call.2.isEviction) →
      (ttlCache ttl name).answers n other = (ttlCache ttl name).answers n history) ∧
    ((ttlCache ttl name).after n history).2.reads name =
      n.reads name + history.countP (fun call => call.2.isGet) := by
  refine ⟨?_, ?_, after_reads (ttlCache ttl name) n history⟩
  · rintro earlier now key later rfl value
    rw [List.map_append, List.pairwise_append] at ordered
    have bound : ∀ call ∈ earlier, call.1 ≤ now := fun call member =>
      ordered.2.2 call.1 (List.mem_map_of_mem member) now (by simp)
    rw [(TTLCache.get_effect ..).1, ← current_iff ttl earlier key now value,
      ← (fresh_refines ttl name n earlier ordered.1).2 key now bound]
    rfl
  · intro other orderly same
    rw [(fresh_refines ttl name n other orderly).1, (fresh_refines ttl name n history ordered).1,
      ← answers_without_evictions ttl _ other, ← answers_without_evictions ttl _ history, same]

end Fresh

/- An entry read at the instant of its expiry, with an eviction before it, and read again after a
write that has expired from the start. -/
def expiries : History Nat Int :=
  [(0, .set "a" 1), (9, .get "a"), (10, .evictExpired), (10, .get "a"), (11, .setTtl "a" 2 (-1)), (11, .get "a")]

theorem expiries_refine :
    (expiries.map Prod.fst).Pairwise (· ≤ ·) ∧
    (ttlCache 10 "default").answers ⟨∅, ∅, ∅⟩ expiries = [some 1, none, none] ∧
    ((ttlCache 10 "default").after ⟨∅, ∅, ∅⟩ expiries).2.reads "default" = 3 := by
  have ordered : (expiries.map Prod.fst).Pairwise (· ≤ ·) := by decide
  refine ⟨ordered, by decide, ?_⟩
  exact (ttlCache_refines_history 10 "default" ⟨∅, ∅, ∅⟩ expiries ordered).2.2

end VMachine.Cache
