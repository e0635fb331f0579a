import VMachine.OpenStack.Coherence

/-! One list_servers call and one delete_server call, step by step and in any order. The
fill of the cache and its invalidation share no lock and no version, so a list that was
fetched before the delete can be stored after the invalidation. That is the only way for
a deleted server to come back, and it lasts no longer than the entry lives. The world is
what both calls share: one process with its memory cache, or the Redis server of several
workers, whose clients differ in nothing but their counters. -/
namespace VMachine.OpenStack
open Py Effects

section Steps
variable (env : Env)

def serversRequest : SdkCall := ⟨"compute", "servers", [], [("limit", .int env.listLimit)]⟩

/- The second step of list_servers, between the miss and cache_set. -/
def fetchServers : M Listing := do
  let before ← get
  let servers ← call env "compute" "servers" [] [("limit", .int env.listLimit)]
  let items ← ofExcept (comprehend serializeServerSummary servers)
  return ⟨items.map .model, before.log.length⟩

/- The first step of delete_server, up to cache_invalidate. -/
def requestDelete (serverId : String) : M Unit := do
  let deleted ← call env "compute" "delete_server" [.str serverId] [("ignore_missing", .bool true)]
  match deleted.value with
  | .bool false => throw (.appException "Server not found" 404 "server_not_found")
  | _ => return

theorem listServers_steps : listServers env = (do
    match ← cacheGet env "servers" with
    | some cached => return cached
    | none =>
      let result ← fetchServers env
      cacheSet env "servers" result
      return result) := by
  refine congrArg _ (funext fun found => ?_)
  cases found with
  | some cached => rfl
  | none => simp only [fetchServers, bind_assoc, pure_bind]

theorem deleteServer_steps (serverId : String) : deleteServer env serverId = (do
    requestDelete env serverId
    cacheInvalidate env "servers") := by
  simp only [deleteServer, requestDelete, bind_assoc]
  congr 1
  funext deleted
  cases deleted.value with
  | bool found => cases found <;> rfl
  | none | int | str | list | dict => rfl

end Steps

inductive ListCall where
  | idle
  | missed
  | fetched (listing : Listing)
  | returned
  | failed

/- A delete that was requested has the tick from which on Nova knows of it. One that is
done also records whether its invalidation was carried out. -/
inductive DeleteCall where
  | idle
  | requested (since : Nat)
  | done (since : Nat) (carried : Bool)
  | failed

def DeleteCall.since : DeleteCall → Option Nat
  | .requested since => some since
  | .done since _ => some since
  | _ => none

/- Both calls and the world. `fetchedBefore` says that the list was fetched before Nova
knew of the delete, `lateSet` when it was stored, if after the invalidation. -/
structure Race where
  world : World
  list : ListCall
  delete : DeleteCall
  fetchedBefore : Bool
  lateSet : Option Nat

def Race.start (w : World) : Race := ⟨w, .idle, .idle, false, none⟩

/- A bystander is any other list_servers call, made in one piece. -/
inductive Move where
  | get
  | fetch
  | set
  | delete
  | invalidate
  | bystander
  deriving Repr, DecidableEq

def raceStep (env : Env) (victim : String) (s : Race) : Move → Option Race
  | .get =>
    match s.list with
    | .idle =>
      match cacheGet env "servers" s.world with
      | .ok none t => some { s with world := t, list := .missed }
      | .ok (some _) t => some { s with world := t, list := .returned }
      | .error _ t => some { s with world := t, list := .failed }
    | _ => none
  | .fetch =>
    match s.list with
    | .missed =>
      match fetchServers env s.world with
      | .ok listing t => some { s with
          world := t, list := .fetched listing, fetchedBefore := s.delete.since.isNone }
      | .error _ t => some { s with world := t, list := .failed }
    | _ => none
  | .set =>
    match s.list with
    | .fetched listing =>
      match cacheSet env "servers" listing s.world with
      | .ok _ t => some { s with
          world := t, list := .returned,
          lateSet := if s.delete matches .done _ _ then some (env.wall s.world.tick) else none }
      | .error _ t => some { s with world := t, list := .failed }
    | _ => none
  | .delete =>
    match s.delete with
    | .idle =>
      match requestDelete env victim s.world with
      | .ok _ t => some { s with world := t, delete := .requested t.tick }
      | .error _ t => some { s with world := t, delete := .failed }
    | _ => none
  | .invalidate =>
    match s.delete with
    | .requested since =>
      match cacheInvalidate env "servers" s.world with
      | .ok _ t => some { s with
          world := t, delete := .done since (s.world.cache.reaches (env.redisUp s.world.tick)) }
      | .error _ t => some { s with world := t, delete := .failed }
    | _ => none
  | .bystander => some { s with world := endOf (listServers env s.world) }

/- The list holds a server of that id, as a model or as a dictionary from Redis. -/
def Item.attrs : Item → List (String × Val)
  | .model o => o.attrs
  | .plain attrs => attrs

def Listing.Mentions (victim : String) (l : Listing) : Prop :=
  ∃ item ∈ l.items, item.attrs.lookup "id" = some (.str victim)

def Reply.Mentions (victim : String) (reply : Reply) : Prop :=
  ∃ vs, reply.value = .list vs ∧ ∃ v ∈ vs, v.get? "id" = some (.str victim)

/- Nova lists the server no more. -/
def GoneFrom (env : Env) (victim : String) (since : Nat) : Prop :=
  ∀ n reply, since ≤ n → (env.sdk n (serversRequest env)).result = .ok reply → ¬ reply.Mentions victim

section Mentions
variable {victim : String}

theorem dump_attrs (item : Item) : item.dump.attrs = item.attrs := by cases item <;> rfl

@[simp] theorem json_mentions {l : Listing} : l.json.Mentions victim ↔ l.Mentions victim := by
  simp [Listing.Mentions, Listing.json, dump_attrs]

/-- The id of a summary is the one of the server it was made of. -/
theorem serializeServerSummary_id {server : Val} {o : Obj} (ok : serializeServerSummary server = .ok o)
    (named : o.attrs.lookup "id" = some (.str victim)) : server.get? "id" = some (.str victim) := by
  simp only [serializeServerSummary, validate, Schema.construct] at ok
  split at ok
  · rename_i built
    split at built
    · cases ok
      cases built
      have value : (serverSummaryData server).lookup (optionalStr "id").name =
          some ((server.get? "id").getD .none) := rfl
      have stored : ((optionalStr "id").value (serverSummaryData server)).getD .none = .str victim :=
        Option.some.inj named
      cases checked : (optionalStr "id").value (serverSummaryData server) with
      | none => simp [checked] at stored
      | some v =>
        have kept := value_of_given value checked
        cases id : server.get? "id" with
        | none => simp_all
        | some u => simp_all
    · contradiction
  · contradiction

theorem comprehend_mentions {reply : Reply} {items : List Obj} {fetchedAt : Nat}
    (ok : comprehend serializeServerSummary reply = .ok items)
    (named : Listing.Mentions victim ⟨items.map .model, fetchedAt⟩) : reply.Mentions victim := by
  simp only [Listing.Mentions, List.mem_map] at named
  obtain ⟨_, ⟨o, member, rfl⟩, id⟩ := named
  unfold comprehend at ok
  split at ok
  · rename_i vs value
    cases all : vs.mapM serializeServerSummary with
    | error exc => simp [all, bind, Except.bind] at ok
    | ok os =>
      simp only [all, bind, Except.bind] at ok
      split at ok
      · contradiction
      · cases ok
        obtain ⟨server, inside, summary⟩ := mem_of_mapM_ok all member
        exact ⟨vs, value, server, inside, serializeServerSummary_id summary id⟩
  · contradiction

end Mentions

section Specs
variable {env : Env} {victim : String} {w : World}

/- What Nova answers from now on still lists the server. -/
def StillListed (env : Env) (victim : String) (w : World) : Prop :=
  ∃ n reply, w.tick ≤ n ∧ (env.sdk n (serversRequest env)).result = .ok reply ∧ reply.Mentions victim

theorem not_stillListed {since : Nat} (gone : GoneFrom env victim since) (later : since ≤ w.tick) :
    ¬ StillListed env victim w := by
  rintro ⟨n, reply, after, answer, mentions⟩
  exact gone n reply (Nat.le_trans later after) answer mentions

/- Nothing about the server is put into the cache but what Nova answers from now on. -/
def untold (env : Env) (victim : String) : Frame World where
  rel s t := (∀ entry, t.cache.peek "servers" = some entry → entry.value.Mentions victim →
      s.cache.peek "servers" = some entry ∨ StillListed env victim s) ∧
    t.cache.lifetime "servers" = s.cache.lifetime "servers" ∧ s.tick ≤ t.tick
  refl _ := ⟨fun _ held _ => .inl held, rfl, Nat.le_refl _⟩
  trans := by
    rintro s t u ⟨held, lifetime, tick⟩ ⟨held', lifetime', tick'⟩
    refine ⟨fun entry there mentions => ?_, lifetime'.trans lifetime, Nat.le_trans tick tick'⟩
    obtain before | ⟨n, reply, after, answer⟩ := held' entry there mentions
    · exact held entry before mentions
    · exact .inr ⟨n, reply, Nat.le_trans tick after, answer⟩

theorem untold_inert (env : Env) (victim : String) : Inert env (fun _ => True) (untold env victim) where
  asked w := ⟨fun _ held _ => .inl held, rfl, Nat.le_succ w.tick⟩
  passed _ _ := (untold env victim).refl _
  connected _ := (untold env victim).refl _
  issued _ _ _ _ := (untold env victim).refl _
  audited _ _ := (untold env victim).refl _
  measured _ _ := (untold env victim).refl _

theorem cacheGet_untold : Frames (untold env victim) (cacheGet env "servers") := fun w =>
  ⟨fun _ held _ => .inl (peek_kept (Cache.cacheGet_peek _ _ _ w.cache _) held),
    Cache.cacheGet_lifetime _ _ _ _ _, Nat.le_succ w.tick⟩

theorem cacheInvalidate_untold : Frames (untold env victim) (cacheInvalidate env "servers") := fun w =>
  ⟨fun _ held _ => .inl (peek_kept (Cache.cacheInvalidate_peek _ _ w.cache _) held),
    Cache.cacheInvalidate_lifetime _ _ _ _, Nat.le_succ w.tick⟩

theorem fetchServers_untold : Frames (untold env victim) (fetchServers env) :=
  frames_bind frames_get (fun _ => frames_bind (call_frames (untold_inert env victim).toSilent _ _ _ trivial) (fun _ =>
    frames_bind (ofExcept_frames _) (fun _ => frames_pure _)))

/-- A fetched list mentions the server only if Nova does, now or later. -/
theorem fetchServers_mentions (w : World) :
    wp (fetchServers env) w (fun listing _ => listing.Mentions victim → StillListed env victim w)
      (fun _ _ => True) := by
  simp only [fetchServers, wp_bind, wp_get]
  refine wp_mono (call_answered _ _ _ _) ?_ (fun _ _ _ => trivial)
  rintro reply t ⟨n, after, _, answer⟩
  cases ok : comprehend serializeServerSummary reply with
  | error exc => trivial
  | ok items => exact fun mentions => ⟨n, reply, after, answer, comprehend_mentions ok mentions⟩

/-- A write stores the list it is given for the lifetime of the backend, or nothing. -/
theorem cacheSet_stores (listing : Listing) (w : World) :
    wp (cacheSet env "servers" listing) w
      (fun _ t => t.cache.lifetime "servers" = w.cache.lifetime "servers" ∧ w.tick ≤ t.tick ∧
        ∀ entry, t.cache.peek "servers" = some entry → w.cache.peek "servers" = some entry ∨
          (entry.value.Mentions victim → listing.Mentions victim) ∧
          ∃ lifetime, w.cache.lifetime "servers" = some lifetime ∧ entry.expiresAt = env.wall w.tick + lifetime)
      (fun _ _ => False) := by
  simp only [cacheSet, ask, wp_bind, wp_get, wp_set, wp_pure, wp_modify]
  refine ⟨Cache.cacheSet_lifetime _ _ _ _ _ _ _, Nat.le_succ _, fun entry held => ?_⟩
  obtain same | ⟨stored, lifetime, origin, known, there⟩ :=
    Cache.cacheSet_peek (env.redisUp w.tick) (env.wall w.tick) Listing.json "servers" listing w.cache
  · exact .inl (same.symm.trans held)
  · right
    cases Option.some.inj (there.symm.trans held)
    refine ⟨fun mentions => ?_, lifetime, known, rfl⟩
    obtain rfl | rfl := origin
    · exact mentions
    · exact json_mentions.mp mentions

/-- A whole list call returns a list that mentions the server only out of an entry that has
not expired, or because Nova does, and puts it into the cache only in the latter case. -/
theorem listServers_mentions (w : World) :
    wp (listServers env) w
      (fun listing t => (untold env victim).rel w t ∧ (listing.Mentions victim →
        (∃ entry, w.cache.peek "servers" = some entry ∧ entry.value = listing ∧
          env.wall w.tick < entry.expiresAt) ∨ StillListed env victim w))
      (fun _ t => (untold env victim).rel w t) := by
  rw [listServers_steps, wp_bind]
  have got : wp (cacheGet env "servers") w
      (fun found t => (untold env victim).rel w t ∧ ∀ listing, found = some listing →
        ∃ entry, w.cache.peek "servers" = some entry ∧ entry.value = listing ∧ env.wall w.tick < entry.expiresAt)
      (fun _ _ => False) :=
    ⟨cacheGet_untold w, fun listing found => Cache.cacheGet_found found⟩
  refine wp_mono got ?_ (fun _ _ never => never.elim)
  rintro found t ⟨since, hit⟩
  cases found with
  | some cached => exact ⟨since, fun _ => .inl (hit cached rfl)⟩
  | none =>
    have earlier : StillListed env victim t → StillListed env victim w := fun ⟨n, reply, after, answer⟩ =>
      ⟨n, reply, Nat.le_trans since.2.2 after, answer⟩
    rw [wp_bind]
    refine wp_mono (wp_and (@fetchServers_untold env victim t) (@fetchServers_mentions env victim t)) ?_ ?_
    · rintro result u ⟨fetched, mentioned⟩
      rw [wp_bind]
      refine wp_mono (@cacheSet_stores env victim result u) ?_ (fun _ _ never => never.elim)
      rintro _ v ⟨lifetime, tick, stored⟩
      have before := (untold env victim).trans since fetched
      refine ⟨⟨fun entry held mentions => ?_, lifetime.trans before.2.1, Nat.le_trans before.2.2 tick⟩,
        fun mentions => .inr (earlier (mentioned mentions))⟩
      obtain old | ⟨new, _⟩ := stored entry held
      · exact before.1 entry old mentions
      · exact .inr (earlier (mentioned (new mentions)))
    · rintro exc u ⟨fetched, _⟩
      exact (untold env victim).trans since fetched

end Specs

/- Nova has forgotten the server since the delete, if there was one. -/
def Gone (env : Env) (victim : String) (s : Race) : Prop :=
  ∀ since, s.delete.since = some since → GoneFrom env victim since

/- The entry in the cache is the list that was fetched too early and stored too late. -/
def WrittenBack (s : Race) (entry : Cache.Entry Listing) : Prop :=
  s.fetchedBefore = true ∧ ∃ written lifetime, s.lateSet = some written ∧
    s.world.cache.lifetime "servers" = some lifetime ∧ entry.expiresAt = written + lifetime

structure Guarded (env : Env) (victim : String) (s : Race) : Prop where
  ticks : ∀ since, s.delete.since = some since → since ≤ s.world.tick
  unset : s.list ≠ .returned → s.lateSet = none
  fetched : Gone env victim s → ∀ listing, s.list = .fetched listing → listing.Mentions victim →
    s.fetchedBefore = true
  cached : Gone env victim s → ∀ since entry, s.delete = .done since true →
    s.world.cache.peek "servers" = some entry → entry.value.Mentions victim → WrittenBack s entry

section Steps
variable {env : Env} {victim : String} {s : Race}

theorem guarded_start (w : World) : Guarded env victim (.start w) where
  ticks _ none := nomatch none
  unset _ := rfl
  fetched _ _ idle := nomatch idle
  cached _ _ _ idle := nomatch idle

/-- After the invalidation what mentions the server was there before the step. -/
theorem Guarded.held (guarded : Guarded env victim s) {t : World} (since : (untold env victim).rel s.world t)
    (gone : Gone env victim s) {n : Nat} (done : s.delete = .done n true) {entry : Cache.Entry Listing}
    (there : t.cache.peek "servers" = some entry) (mentions : entry.value.Mentions victim) :
    s.world.cache.peek "servers" = some entry := by
  have known : s.delete.since = some n := by rw [done]; rfl
  exact (since.1 entry there mentions).resolve_right (not_stillListed (gone n known) (guarded.ticks n known))

/-- A step that leaves the delete alone and stores nothing of its own. -/
theorem Guarded.step (guarded : Guarded env victim s) {t : World} {list : ListCall}
    (since : (untold env victim).rel s.world t)
    (advance : list = s.list ∨ s.list ≠ .returned ∧ ∀ listing, list ≠ .fetched listing) :
    Guarded env victim { s with world := t, list := list } where
  ticks n known := Nat.le_trans (guarded.ticks n known) since.2.2
  unset := by
    intro running
    obtain rfl | ⟨earlier, _⟩ := advance
    · exact guarded.unset running
    · exact guarded.unset earlier
  fetched gone listing held mentions := by
    obtain rfl | ⟨_, other⟩ := advance
    · exact guarded.fetched gone listing held mentions
    · exact absurd held (other listing)
  cached gone n entry done there mentions := by
    have before := guarded.held since gone done there mentions
    obtain ⟨early, written, lifetime, late, known, expires⟩ := guarded.cached gone n entry done before mentions
    exact ⟨early, written, lifetime, late, since.2.1.trans known, expires⟩

theorem step_get (guarded : Guarded env victim s) {t : Race} (h : raceStep env victim s .get = some t) :
    Guarded env victim t := by
  simp only [raceStep] at h
  split at h
  · rename_i idle
    have running : s.list ≠ .returned := by simp [idle]
    split at h
    all_goals
      rename_i u run
      cases h
    · exact guarded.step (cacheGet_untold.of_ok run) (.inr ⟨running, fun _ other => nomatch other⟩)
    · exact guarded.step (cacheGet_untold.of_ok run) (.inr ⟨running, fun _ other => nomatch other⟩)
    · exact guarded.step (cacheGet_untold.of_error run) (.inr ⟨running, fun _ other => nomatch other⟩)
  · contradiction

theorem step_fetch (guarded : Guarded env victim s) {t : Race} (h : raceStep env victim s .fetch = some t) :
    Guarded env victim t := by
  simp only [raceStep] at h
  split at h
  · rename_i missed
    have running : s.list ≠ .returned := by simp [missed]
    split at h
    · rename_i listing u run
      cases h
      have since := (@fetchServers_untold env victim).of_ok run
      have listed := wp_of_ok (@fetchServers_mentions env victim s.world) run
      refine ⟨fun n known => Nat.le_trans (guarded.ticks n known) since.2.2, fun _ => guarded.unset running, ?_, ?_⟩
      · intro gone fetched same mentions
        cases same
        cases known : s.delete.since with
        | none => rfl
        | some n => exact absurd (listed mentions) (not_stillListed (gone n known) (guarded.ticks n known))
      · -- Nothing has been stored after the invalidation yet.
        intro gone n entry done there mentions
        have before := guarded.held since gone done there mentions
        obtain ⟨_, written, _, late, _⟩ := guarded.cached gone n entry done before mentions
        exact absurd ((guarded.unset running).symm.trans late) (by simp)
    · rename_i exc u run
      cases h
      exact guarded.step (fetchServers_untold.of_error run) (.inr ⟨running, fun _ other => nomatch other⟩)
  · contradiction

theorem step_set (guarded : Guarded env victim s) {t : Race} (h : raceStep env victim s .set = some t) :
    Guarded env victim t := by
  simp only [raceStep] at h
  split at h
  · rename_i listing fetched
    have running : s.list ≠ .returned := by simp [fetched]
    split at h
    · rename_i u run
      cases h
      obtain ⟨lifetime, tick, stored⟩ := wp_of_ok (@cacheSet_stores env victim listing s.world) run
      refine ⟨fun n known => Nat.le_trans (guarded.ticks n known) tick, fun not => absurd rfl not,
        fun _ _ other => absurd other (by simp), ?_⟩
      intro gone n entry done there mentions
      obtain old | ⟨new, life, known, expires⟩ := stored entry there
      · obtain ⟨_, written, _, late, _⟩ := guarded.cached gone n entry done old mentions
        exact absurd ((guarded.unset running).symm.trans late) (by simp)
      · have done : s.delete = .done n true := done
        refine ⟨guarded.fetched gone listing fetched (new mentions), env.wall s.world.tick, life, ?_,
          lifetime.trans known, expires⟩
        simp [done]
    · rename_i exc u run
      exact (wp_of_error (@cacheSet_stores env victim listing s.world) run).elim
  · contradiction

theorem step_delete (guarded : Guarded env victim s) {t : Race} (h : raceStep env victim s .delete = some t) :
    Guarded env victim t := by
  simp only [raceStep] at h
  split at h
  · rename_i idle
    have gone : Gone env victim s := by simp [Gone, idle, DeleteCall.since]
    split at h
    · cases h
      refine ⟨?_, guarded.unset, fun _ => guarded.fetched gone, fun _ _ _ other => nomatch other⟩
      intro n known
      cases known
      exact Nat.le_refl _
    · cases h
      exact ⟨fun _ none => (nomatch none), guarded.unset, fun _ => guarded.fetched gone,
        fun _ _ _ other => nomatch other⟩
  · contradiction

theorem step_invalidate (guarded : Guarded env victim s) {t : Race}
    (h : raceStep env victim s .invalidate = some t) : Guarded env victim t := by
  simp only [raceStep] at h
  split at h
  · rename_i since requested
    have known : s.delete.since = some since := by rw [requested]; rfl
    split at h
    · rename_i u run
      cases h
      have later := ((@cacheInvalidate_untold env victim).of_ok run).2.2
      have same : ∀ n, (DeleteCall.done since (s.world.cache.reaches (env.redisUp s.world.tick))).since = some n →
          s.delete.since = some n := fun n done => known.trans done
      refine ⟨fun n done => Nat.le_trans (guarded.ticks n (same n done)) later, guarded.unset, ?_, ?_⟩
      · intro gone
        exact guarded.fetched (fun n requested => gone n (known.symm.trans requested))
      · intro gone n entry done there mentions
        have carried : s.world.cache.reaches (env.redisUp s.world.tick) = true := by
          injection done
        have empty : u.cache.peek "servers" = none := by
          cases run
          exact Cache.cacheInvalidate_gone carried
        exact absurd (empty.symm.trans there) (by simp)
    · rename_i exc u run
      cases run
  · contradiction

theorem step_bystander (guarded : Guarded env victim s) {t : Race}
    (h : raceStep env victim s .bystander = some t) : Guarded env victim t := by
  cases h
  refine guarded.step ?_ (.inl rfl)
  have whole := @listServers_mentions env victim s.world
  cases run : listServers env s.world with
  | ok listing u => exact (wp_of_ok whole run).1
  | error exc u =>
    have kept := wp_of_error whole run
    exact kept

theorem raceStep_guarded {t : Race} {move : Move} (guarded : Guarded env victim s)
    (h : raceStep env victim s move = some t) : Guarded env victim t := by
  cases move with
  | get => exact step_get guarded h
  | fetch => exact step_fetch guarded h
  | set => exact step_set guarded h
  | delete => exact step_delete guarded h
  | invalidate => exact step_invalidate guarded h
  | bystander => exact step_bystander guarded h

end Steps

/-- In every interleaving, once the delete is through with its invalidation carried out, a
later list mentions the deleted server only if the list call had fetched before the delete
and stored after the invalidation, and then only until the entry that it stored expires. -/
theorem deleted_server_returns_only_written_back {env : Env} {victim : String} {w t : World} {moves : List Move}
    {s : Race} {since : Nat} {listing : Listing}
    (run : Runs.exec (raceStep env victim) (.start w) moves = some s)
    (done : s.delete = .done since true) (gone : GoneFrom env victim since)
    (later : listServers env s.world = .ok listing t) (mentions : listing.Mentions victim) :
    s.fetchedBefore = true ∧ ∃ written lifetime, s.lateSet = some written ∧
      s.world.cache.lifetime "servers" = some lifetime ∧ env.wall s.world.tick < written + lifetime := by
  have guarded : Guarded env victim s :=
    Runs.invariant (raceStep env victim) (fun _ _ _ guarded h => raceStep_guarded guarded h)
      (guarded_start w) run
  have known : s.delete.since = some since := by rw [done]; rfl
  have forgotten : Gone env victim s := by
    intro n same
    cases known.symm.trans same
    exact gone
  obtain ⟨entry, held, rfl, fresh⟩ | still := (wp_of_ok (@listServers_mentions env victim s.world) later).2 mentions
  · obtain ⟨early, written, lifetime, late, known, expires⟩ :=
      guarded.cached forgotten since entry done held mentions
    exact ⟨early, written, lifetime, late, known, expires ▸ fresh⟩
  · exact absurd still (not_stillListed gone (guarded.ticks since known))

/- The server is listed until the delete of the run below, which is request number 3. -/
def forgetfulNova : Env :=
  { obligingNova with
    sdk := fun n request => { result := .ok ⟨if request.operation = "servers" then
      .list (if n < 4 then [oneServer] else []) else .none, none⟩ } }

def writtenBack : List Move := [.get, .fetch, .delete, .invalidate, .set]

theorem forgetfulNova_gone : GoneFrom forgetfulNova "srv-1" 4 := by
  intro n reply after answer
  have late : ¬ n < 4 := by omega
  have empty : reply = ⟨.list [], none⟩ := by
    simp only [forgetfulNova, serversRequest, late, if_true, if_false, Except.ok.injEq] at answer
    exact answer.symm
  rintro ⟨vs, list, v, member, _⟩
  rw [empty] at list
  cases list
  contradiction

/-- The five steps in this order end with both calls completed and the server in the cache. -/
theorem writtenBack_outcome :
    ∃ s listing t, Runs.exec (raceStep forgetfulNova "srv-1") (.start .initial) writtenBack = some s ∧
      s.list = .returned ∧ s.delete = .done 4 true ∧ listServers forgetfulNova s.world = .ok listing t ∧
      listing.Mentions "srv-1" := by
  refine ⟨_, _, _, rfl, rfl, rfl, rfl, ?_⟩
  exact ⟨_, List.mem_singleton.mpr rfl, rfl⟩

theorem list_after_write_back_within_ttl :
    ∃ s listing t, Runs.exec (raceStep forgetfulNova "srv-1") (.start .initial) writtenBack = some s ∧
      listServers forgetfulNova s.world = .ok listing t ∧ listing.Mentions "srv-1" ∧
      s.fetchedBefore = true ∧ ∃ written lifetime, s.lateSet = some written ∧
        s.world.cache.lifetime "servers" = some lifetime ∧ forgetfulNova.wall s.world.tick < written + lifetime := by
  obtain ⟨s, listing, t, run, _, done, later, mentions⟩ := writtenBack_outcome
  exact ⟨s, listing, t, run, later, mentions,
    deleted_server_returns_only_written_back run done forgetfulNova_gone later mentions⟩

theorem stale_list_is_written_back :
    ¬ ∀ env victim w moves s since listing t,
      Runs.exec (raceStep env victim) (.start w) moves = some s → s.list = .returned →
      s.delete = .done since true → GoneFrom env victim since →
      listServers env s.world = .ok listing t → ¬ listing.Mentions victim := by
  intro claim
  obtain ⟨s, listing, t, run, returned, done, later, mentions⟩ := writtenBack_outcome
  exact claim _ _ _ _ s 4 listing t run returned done forgetfulNova_gone later mentions

end VMachine.OpenStack
