import VMachine.Lib.Runs
import VMachine.OpenStack.Engine

/-! The cached server list over sequential runs. Thirteen operations change servers; the
entry "servers" stays as it is unless the operation itself invalidates it. Each listing
carries the position in the log of requests at which it was fetched, so that a list from
before an operation can be told from one after it. -/
namespace VMachine.OpenStack
open Py Effects

inductive Op where
  | listServers
  | createServer (payload : ServerCreateRequest)
  | performAction (serverId action : String)
  | deleteServer (serverId : String)
  | resizeServer (serverId flavorId : String)
  | confirmResize (serverId : String)
  | revertResize (serverId : String)
  | attachVolume (serverId volumeId : String)
  | detachVolume (serverId volumeId : String)
  | createVm (request : VMCreateRequest)
  | startVm (serverId : String)
  | stopVm (serverId : String)
  | rebootVm (serverId : String)
  | deleteVm (serverId : String)
  deriving Repr

/- The operations that call cache_invalidate("servers"). -/
def Op.invalidates : Op → Bool
  | .createServer _ | .deleteServer _ | .attachVolume _ _ | .detachVolume _ _ => true
  | _ => false

/- A mutating operation, whatever it returns. -/
def mutate (env : Env) : Op → M Unit
  | .listServers => return
  | .createServer payload => do let _ ← createServer env payload
  | .performAction serverId action => do let _ ← performAction env serverId action
  | .deleteServer serverId => deleteServer env serverId
  | .resizeServer serverId flavorId => resizeServer env serverId flavorId
  | .confirmResize serverId => confirmResize env serverId
  | .revertResize serverId => revertResize env serverId
  | .attachVolume serverId volumeId => attachVolume env serverId volumeId
  | .detachVolume serverId volumeId => detachVolume env serverId volumeId
  | .createVm request => do let _ ← createVm env request
  | .startVm serverId => do let _ ← startVm env serverId
  | .stopVm serverId => do let _ ← stopVm env serverId
  | .rebootVm serverId => do let _ ← rebootVm env serverId
  | .deleteVm serverId => do let _ ← deleteVm env serverId

/- A list that was returned: when it had been fetched, and when the last mutating operation
before it had returned. -/
structure Answer where
  mutatedAt : Nat
  fetchedAt : Nat
  deriving Repr, DecidableEq

structure Session where
  world : World
  mutatedAt : Nat
  answers : List Answer

def Session.start (w : World) : Session := ⟨w, 0, []⟩

/- One operation after the other; an operation that raises changes nothing but the world. -/
def perform (env : Env) (s : Session) (op : Op) : Option Session :=
  match op with
  | .listServers =>
    match listServers env s.world with
    | .ok listing t => some ⟨t, s.mutatedAt, s.answers ++ [⟨s.mutatedAt, listing.fetchedAt⟩]⟩
    | .error _ t => some ⟨t, s.mutatedAt, s.answers⟩
  | op =>
    match mutate env op s.world with
    | .ok _ t => some ⟨t, t.log.length, s.answers⟩
    | .error _ t => some ⟨t, s.mutatedAt, s.answers⟩

/- No list was fetched before the last mutating operation had returned. -/
def Coherent (s : Session) : Prop := ∀ a ∈ s.answers, a.mutatedAt ≤ a.fetchedAt

/- Every command that was sent to the cache in between has been carried out. -/
def CarriedOut (env : Env) (w t : World) : Prop :=
  ∀ n, w.tick ≤ n → n < t.tick → w.cache.reaches (env.redisUp n) = true

def endOf {α : Type} : EStateM.Result Exc World α → World
  | .ok _ t => t
  | .error _ t => t

/- The step keeps the cached list honest: it only reads, or there is no list in the cache,
or it is one that invalidates and the cache is up. -/
def Honest (env : Env) (s : Session) (op : Op) : Prop :=
  op = .listServers ∨ s.world.cache.peek "servers" = none ∨
    (op.invalidates = true ∧ CarriedOut env s.world (endOf (mutate env op s.world)))

section Calm

/-- An entry that is kept or dropped was there before. -/
theorem peek_kept {now before : Option (Cache.Entry Listing)} (kept : now = before ∨ now = none)
    {entry : Cache.Entry Listing} (held : now = some entry) : before = some entry := by
  obtain same | gone := kept
  · exact same.symm.trans held
  · exact absurd (gone.symm.trans held) (by simp)

/- Nothing is put into the cache under "servers", and time goes on. -/
def calm : Frame World where
  rel s t := (t.cache.peek "servers" = s.cache.peek "servers" ∨ t.cache.peek "servers" = none) ∧
    (∀ ok, t.cache.reaches ok = s.cache.reaches ok) ∧ s.log.length ≤ t.log.length ∧ s.tick ≤ t.tick
  refl _ := ⟨.inl rfl, fun _ => rfl, Nat.le_refl _, Nat.le_refl _⟩
  trans := by
    rintro s t u ⟨peek, reaches, log, tick⟩ ⟨peek', reaches', log', tick'⟩
    refine ⟨?_, fun ok => (reaches' ok).trans (reaches ok), Nat.le_trans log log', Nat.le_trans tick tick'⟩
    obtain same | gone := peek'
    · rw [same]
      exact peek
    · exact .inr gone

theorem calm_inert (env : Env) : Inert env (fun _ => True) calm where
  asked w := ⟨.inl rfl, fun _ => rfl, Nat.le_refl _, Nat.le_succ w.tick⟩
  passed _ _ := calm.refl _
  connected _ := calm.refl _
  issued w n request _ := ⟨.inl rfl, fun _ => rfl, by simp, Nat.le_refl _⟩
  audited _ _ := calm.refl _
  measured _ _ := calm.refl _

theorem cacheInvalidate_calm (env : Env) (resource : String) : Frames calm (cacheInvalidate env resource) := by
  intro w
  simp only [cacheInvalidate, ask, wp_bind, wp_get, wp_set, wp_pure, wp_modify]
  exact ⟨Cache.cacheInvalidate_peek _ _ _ _, Cache.cacheInvalidate_reaches _ _ _, Nat.le_refl _, Nat.le_succ w.tick⟩

variable {env : Env}

theorem call_calm (service operation : String) (args : List Val) (kwargs : List (String × Val)) :
    Frames calm (call env service operation args kwargs) :=
  call_frames (calm_inert env).toSilent service args kwargs trivial

theorem lookupOr404_calm (service operation id message code : String) :
    Frames calm (lookupOr404 env service operation id message code) :=
  frames_bind (call_calm _ _ _ _) (fun _ => frames_ite _ (frames_pure _) (frames_throw _))

/-- The operations that do not touch the cache at all. -/
theorem performAction_calm (serverId action : String) : Frames calm (performAction env serverId action) := by
  refine frames_bind (lookupOr404_calm _ _ _ _ _) (fun server => ?_)
  split
  · exact frames_throw _
  · exact frames_bind (call_calm _ _ _ _) (fun _ => frames_pure _)

theorem serverRequest_calm (serverId operation : String) (args : List Val) :
    Frames calm (serverRequest env serverId operation args) :=
  frames_bind (lookupOr404_calm _ _ _ _ _) (fun _ => frames_bind (call_calm _ _ _ _) (fun _ => frames_pure _))

/- The program stores no list, and leaves none when it returns, provided the cache is up. -/
structure Drops (env : Env) {α : Type} (m : M α) : Prop where
  calm : Frames calm m
  dropped : ∀ w, wp m w (fun _ t => CarriedOut env w t → t.cache.peek "servers" = none) (fun _ _ => True)

theorem drops_bind {α β : Type} {m : M α} {f : α → M β} (first : Frames calm m)
    (rest : ∀ a, Drops env (f a)) : Drops env (m >>= f) := by
  refine ⟨frames_bind first (fun a => (rest a).calm), fun w => ?_⟩
  rw [wp_bind]
  refine wp_mono (first w) ?_ (fun _ _ _ => trivial)
  rintro a t ⟨_, reaches, _, tick⟩
  refine wp_mono ((rest a).dropped t) ?_ (fun _ _ _ => trivial)
  intro b u dropped carried
  apply dropped
  intro n after before
  rw [reaches]
  exact carried n (Nat.le_trans tick after) before

theorem drops_throw {α : Type} (exc : Exc) : Drops env (throw exc : M α) :=
  ⟨frames_throw exc, fun _ => trivial⟩

theorem drops_invalidate {β : Type} {f : Unit → M β} (rest : ∀ u, Frames calm (f u)) :
    Drops env (cacheInvalidate env "servers" >>= f) := by
  refine ⟨frames_bind (cacheInvalidate_calm env _) rest, fun w => ?_⟩
  simp only [cacheInvalidate, ask, wp_bind, wp_get, wp_set, wp_pure, wp_modify]
  refine wp_mono (rest _ _) ?_ (fun _ _ _ => trivial)
  rintro b t ⟨peek, _, _, tick⟩ carried
  have reached := carried w.tick (Nat.le_refl _) tick
  obtain same | gone := peek
  · rw [same]
    exact Cache.cacheInvalidate_gone reached
  · exact gone

/-- The operations that invalidate do so after their last request. -/
theorem createServer_drops (payload : ServerCreateRequest) : Drops env (createServer env payload) := by
  refine drops_bind (lookupOr404_calm _ _ _ _ _) (fun _ => drops_bind (lookupOr404_calm _ _ _ _ _) (fun _ => ?_))
  refine drops_bind (lookupOr404_calm _ _ _ _ _) (fun _ => drops_bind ?_ (fun _ => ?_))
  · unfold checkKeypair
    split
    · exact frames_bind (lookupOr404_calm _ _ _ _ _) (fun _ => frames_pure _)
    · exact frames_pure _
  · refine drops_bind (call_calm _ _ _ _) (fun server => drops_bind ?_ (fun _ => ?_))
    · exact frames_ite _ (call_calm _ _ _ _) (frames_pure _)
    · exact drops_invalidate (fun _ => ofExcept_frames _)

theorem deleteServer_drops (serverId : String) : Drops env (deleteServer env serverId) := by
  refine drops_bind (call_calm _ _ _ _) (fun deleted => ?_)
  split
  · exact drops_throw _
  · exact drops_invalidate (fun _ => frames_pure _)

theorem attachVolume_drops (serverId volumeId : String) : Drops env (attachVolume env serverId volumeId) := by
  refine drops_bind (lookupOr404_calm _ _ _ _ _) (fun _ => drops_bind (lookupOr404_calm _ _ _ _ _) (fun _ => ?_))
  refine drops_bind (ofExcept_frames _) (fun _ => drops_bind (call_calm _ _ _ _) (fun _ => ?_))
  exact drops_invalidate (fun _ => cacheInvalidate_calm env "volumes")

theorem detachVolume_drops (serverId volumeId : String) : Drops env (detachVolume env serverId volumeId) := by
  refine drops_bind (lookupOr404_calm _ _ _ _ _) (fun _ => drops_bind (call_calm _ _ _ _) (fun _ => ?_))
  refine drops_bind (ofExcept_frames _) (fun found => ?_)
  split
  · exact drops_throw _
  · refine drops_bind (call_calm _ _ _ _) (fun _ => ?_)
    exact drops_invalidate (fun _ => cacheInvalidate_calm env "volumes")

theorem engine_calm : ∀ operation ∈ engineRequests, True := fun _ _ => trivial

theorem discard_calm {α : Type} {m : M α} (frames : Frames calm m) :
    Frames calm (do let _ ← m) :=
  frames_bind frames (fun _ => frames_pure _)

/-- No operation but the list itself puts a list into the cache. -/
theorem mutate_calm (op : Op) : Frames calm (mutate env op) := by
  cases op with
  | listServers => exact frames_pure _
  | createServer payload => exact discard_calm (createServer_drops payload).calm
  | performAction serverId action => exact discard_calm (performAction_calm serverId action)
  | deleteServer serverId => exact (deleteServer_drops serverId).calm
  | resizeServer serverId flavorId => exact serverRequest_calm _ _ _
  | confirmResize serverId => exact serverRequest_calm _ _ _
  | revertResize serverId => exact serverRequest_calm _ _ _
  | attachVolume serverId volumeId => exact (attachVolume_drops serverId volumeId).calm
  | detachVolume serverId volumeId => exact (detachVolume_drops serverId volumeId).calm
  | createVm request => exact discard_calm (createVm_frames (calm_inert env) engine_calm trivial request)
  | startVm serverId => exact discard_calm (lifecycleOperation_frames (calm_inert env) engine_calm _ _)
  | stopVm serverId => exact discard_calm (lifecycleOperation_frames (calm_inert env) engine_calm _ _)
  | rebootVm serverId => exact discard_calm (lifecycleOperation_frames (calm_inert env) engine_calm _ _)
  | deleteVm serverId => exact discard_calm (deleteVm_frames (calm_inert env) engine_calm _)

/-- The four operations that invalidate leave no list when they return. -/
theorem mutate_drops {op : Op} (invalidates : op.invalidates = true) (w : World) :
    wp (mutate env op) w (fun _ t => CarriedOut env w t → t.cache.peek "servers" = none) (fun _ _ => True) := by
  cases op with
  | createServer payload =>
    rw [mutate, wp_bind]
    exact (createServer_drops payload).dropped w
  | deleteServer serverId => exact (deleteServer_drops serverId).dropped w
  | attachVolume serverId volumeId => exact (attachVolume_drops serverId volumeId).dropped w
  | detachVolume serverId volumeId => exact (detachVolume_drops serverId volumeId).dropped w
  | listServers | performAction | resizeServer | confirmResize | revertResize | createVm | startVm | stopVm
    | rebootVm | deleteVm => contradiction

end Calm

section Listing
variable {env : Env}

/- A list in the cache was there before, or is fetched now. -/
def ListedSince (s : World) (fetchedAt : Nat) : Prop :=
  (∃ entry, s.cache.peek "servers" = some entry ∧ entry.value.fetchedAt = fetchedAt) ∨
    s.log.length ≤ fetchedAt

theorem cacheGet_spec (w : World) :
    wp (cacheGet env "servers") w
      (fun found t => (∀ listing, found = some listing → ListedSince w listing.fetchedAt) ∧
        t.log = w.log ∧ ∀ entry, t.cache.peek "servers" = some entry → w.cache.peek "servers" = some entry)
      (fun _ _ => False) := by
  simp only [cacheGet, ask, wp_bind, wp_get, wp_set, wp_pure]
  refine ⟨?_, trivial, ?_⟩
  · intro listing found
    obtain ⟨entry, held, value, _⟩ := Cache.cacheGet_found found
    exact .inl ⟨entry, held, by rw [value]⟩
  · intro entry held
    exact peek_kept (Cache.cacheGet_peek (env.redisUp w.tick) (env.wall w.tick) "servers" w.cache "servers") held

theorem cacheSet_spec (listing : Listing) (w : World) :
    wp (cacheSet env "servers" listing) w
      (fun _ t => t.log = w.log ∧ ∀ entry, t.cache.peek "servers" = some entry →
        w.cache.peek "servers" = some entry ∨ entry.value.fetchedAt = listing.fetchedAt)
      (fun _ _ => False) := by
  simp only [cacheSet, ask, wp_bind, wp_get, wp_set, wp_pure, wp_modify]
  refine ⟨trivial, fun entry held => ?_⟩
  obtain same | ⟨stored, lifetime, origin, _, written⟩ :=
    Cache.cacheSet_peek (env.redisUp w.tick) (env.wall w.tick) Listing.json "servers" listing w.cache
  · exact .inl (same.symm.trans held)
  · right
    cases Option.some.inj (written.symm.trans held)
    obtain rfl | rfl := origin <;> rfl

theorem listServers_spec (w : World) :
    wp (listServers env) w
      (fun listing t => ListedSince w listing.fetchedAt ∧ w.log.length ≤ t.log.length ∧
        ∀ entry, t.cache.peek "servers" = some entry → ListedSince w entry.value.fetchedAt)
      (fun _ t => w.log.length ≤ t.log.length ∧
        ∀ entry, t.cache.peek "servers" = some entry → ListedSince w entry.value.fetchedAt) := by
  rw [listServers, wp_bind]
  refine wp_mono (cacheGet_spec w) ?_ (fun _ _ never => never.elim)
  rintro found t ⟨hit, log, held⟩
  have before : ∀ entry, t.cache.peek "servers" = some entry → ListedSince w entry.value.fetchedAt :=
    fun entry there => .inl ⟨entry, held entry there, rfl⟩
  cases found with
  | some cached => exact ⟨hit cached rfl, by rw [log], before⟩
  | none =>
    simp only [wp_bind, wp_get]
    -- The request leaves the cache alone, whether it succeeds or not.
    refine wp_mono (call_calm _ _ _ _ t) ?_ ?_
    · rintro servers u ⟨peek, _, grown, _⟩
      have kept : ∀ entry, u.cache.peek "servers" = some entry → ListedSince w entry.value.fetchedAt :=
        fun entry there => before entry (peek_kept peek there)
      rw [log] at grown
      cases comprehend serializeServerSummary servers with
      | error exc => exact ⟨grown, kept⟩
      | ok items =>
        rw [wp_ofExcept_ok]
        refine wp_mono (cacheSet_spec _ u) ?_ (fun _ _ never => never.elim)
        rintro _ v ⟨sameLog, stored⟩
        have since : ListedSince w t.log.length := .inr (by rw [log])
        refine ⟨since, by rw [sameLog]; exact grown, fun entry there => ?_⟩
        obtain old | new := stored entry there
        · exact kept entry old
        · rw [new]
          exact since
    · rintro exc u ⟨peek, _, grown, _⟩
      rw [log] at grown
      exact ⟨grown, fun entry there => before entry (peek_kept peek there)⟩

end Listing

/- What every step keeps: the answers so far are coherent, and so would be the next one. -/
structure Sound (s : Session) : Prop where
  answered : Coherent s
  cached : ∀ entry, s.world.cache.peek "servers" = some entry → s.mutatedAt ≤ entry.value.fetchedAt
  logged : s.mutatedAt ≤ s.world.log.length

section Runs
variable {env : Env} {s t : Session} {op : Op}

theorem listedSince_le {w : World} {mutatedAt fetchedAt : Nat} (since : ListedSince w fetchedAt)
    (cached : ∀ entry, w.cache.peek "servers" = some entry → mutatedAt ≤ entry.value.fetchedAt)
    (logged : mutatedAt ≤ w.log.length) : mutatedAt ≤ fetchedAt := by
  obtain ⟨entry, held, same⟩ | later := since
  · rw [← same]
    exact cached entry held
  · exact Nat.le_trans logged later

theorem perform_list (sound : Sound s) (h : perform env s .listServers = some t) : Sound t := by
  have spec := @listServers_spec env s.world
  simp only [perform] at h
  split at h
  · rename_i listing u run
    cases h
    obtain ⟨since, grown, entries⟩ := wp_of_ok spec run
    have fresh := listedSince_le since sound.cached sound.logged
    refine ⟨?_, ?_, Nat.le_trans sound.logged grown⟩
    · intro a member
      obtain old | new := List.mem_append.mp member
      · exact sound.answered a old
      · rw [List.mem_singleton.mp new]
        exact fresh
    · exact fun entry held => listedSince_le (entries entry held) sound.cached sound.logged
  · rename_i exc u run
    cases h
    obtain ⟨grown, entries⟩ := wp_of_error spec run
    exact ⟨sound.answered, fun entry held => listedSince_le (entries entry held) sound.cached sound.logged,
      Nat.le_trans sound.logged grown⟩

theorem perform_mutate (mutates : op ≠ .listServers) (h : perform env s op = some t) :
    (∃ w, mutate env op s.world = .ok () w ∧ t = ⟨w, w.log.length, s.answers⟩) ∨
    (∃ exc w, mutate env op s.world = .error exc w ∧ t = ⟨w, s.mutatedAt, s.answers⟩) := by
  unfold perform at h
  split at h
  · contradiction
  · split at h
    · rename_i w run
      exact .inl ⟨w, run, (Option.some.inj h).symm⟩
    · rename_i exc w run
      exact .inr ⟨exc, w, run, (Option.some.inj h).symm⟩

theorem perform_sound (sound : Sound s) (honest : Honest env s op) (h : perform env s op = some t) :
    Sound t := by
  by_cases lists : op = .listServers
  · subst lists
    exact perform_list sound h
  · obtain ⟨w, run, rfl⟩ | ⟨exc, w, run, rfl⟩ := perform_mutate lists h
    · obtain ⟨peek, _, grown, _⟩ := (mutate_calm op).of_ok run
      have none : w.cache.peek "servers" = none := by
        obtain impossible | empty | ⟨invalidates, carried⟩ := honest
        · exact absurd impossible lists
        · exact peek.elim (fun same => same.trans empty) id
        · rw [run] at carried
          exact wp_of_ok (mutate_drops invalidates s.world) run carried
      exact ⟨sound.answered, fun entry held => absurd (none.symm.trans held) (by simp), Nat.le_refl _⟩
    · obtain ⟨peek, _, grown, _⟩ := (mutate_calm op).of_error run
      exact ⟨sound.answered, fun entry held => sound.cached entry (peek_kept peek held),
        Nat.le_trans sound.logged grown⟩

/-- In every run whose steps keep the cached list honest, from any world and with any
clock, no answer is a list from before a mutating operation that had returned. -/
theorem honest_runs_coherent {w : World} {ops : List Op}
    (honest : Runs.Along (perform env) (Honest env) (.start w) ops)
    (run : Runs.exec (perform env) (.start w) ops = some t) : Coherent t := by
  have none : Coherent (.start w) := by simp [Coherent, Session.start]
  have initial : Sound (.start w) := ⟨none, fun _ _ => Nat.zero_le _, Nat.zero_le _⟩
  have final : Sound t :=
    Runs.invariant_along (perform env) (fun _ _ _ sound honest h => perform_sound sound honest h)
      initial honest run
  exact final.answered

end Runs

/- One server, a clock that stands still, and every request granted. -/
def oneServer : Val := .dict [("id", .str "srv-1"), ("status", .str "ACTIVE")]

def obligingNova : Env where
  ready := true
  listLimit := 1000
  connect _ := none
  sdk _ request := { result := .ok ⟨if request.operation = "servers" then .list [oneServer] else oneServer, none⟩ }
  wall _ := 0
  lag _ := 0
  redisUp _ := true
  databaseUp _ := true
  uuid _ := "uuid"

theorem delete_between_lists_coherent :
    ∃ t, Runs.exec (perform obligingNova) (.start .initial)
      [.listServers, .deleteServer "srv-1", .listServers] = some t ∧ Coherent t := by
  have whole : ∃ t, Runs.exec (perform obligingNova) (.start .initial)
      [.listServers, .deleteServer "srv-1", .listServers] = some t := ⟨_, rfl⟩
  obtain ⟨t, run⟩ := whole
  refine ⟨t, run, honest_runs_coherent ?_ run⟩
  refine ⟨.inl rfl, fun s first => ⟨.inr (.inr ⟨rfl, fun n _ _ => ?_⟩), fun _ _ => ⟨.inl rfl, fun _ _ => trivial⟩⟩⟩
  cases first
  rfl

theorem resize_leaves_stale_list :
    ¬ ∀ env w ops t, Runs.exec (perform env) (.start w) ops = some t → Coherent t := by
  intro claim
  have stale : ∃ t, Runs.exec (perform obligingNova) (.start .initial)
      [.listServers, .resizeServer "srv-1" "m1.large", .listServers] = some t ∧
        t.answers = [⟨0, 0⟩, ⟨3, 0⟩] := ⟨_, rfl, rfl⟩
  obtain ⟨t, run, answers⟩ := stale
  have fresh := claim _ _ _ t run ⟨3, 0⟩ (by simp [answers])
  contradiction

end VMachine.OpenStack
