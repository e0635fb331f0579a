import VMachine.OpenStack.GaugeRace

/-! When the gauge of active VMs can be trusted. Calls that add and calls that write do not
exclude each other, so a listing may count a server whose increment is still to come. Where
every listing is answered in a calm moment the gauge is right whenever no call is under
way. -/
namespace VMachine.OpenStack.Gauge
open Py Effects

def Task.operation : Task → String
  | .building => "create"
  | .starting => "start"
  | .stopping => "stop"
  | .rebooting => "reboot"
  | .deleting => "delete"

/- The statuses that the task leads to and does not start from. -/
def Task.wanted : Task → List String
  | .building | .starting | .rebooting => ["ACTIVE"]
  | .stopping => ["SHUTOFF", "STOPPED"]
  | .deleting => []

/- The call on whose behalf Nova has the task; it waits for the task to be done. A delete may
stop waiting before that. -/
def Call.Requested (c : Call) (task : Task) : Prop :=
  c.operation.name = task.operation ∧ (c.stage = .waiting ∨ c.operation.name = "delete" ∧ c.stage = .ready)

def OnlyDirty (i : Nat) (calls : List Call) : Prop :=
  ∀ (k : Nat) c, k ≠ i → calls[k]? = some c → c.dirty = false

/- What holds of Nova's tasks, and of the gauge. -/
structure Owned (s : State) : Prop where
  requested : ∀ (j : Nat) v task, s.servers[j]? = some v → v.task = some task →
    ∃ (k : Nat) (c : Call), s.calls[k]? = some c ∧ c.server = j ∧ c.Requested task
  unsettled : ∀ (j : Nat) v task, s.servers[j]? = some v → v.task = some task → v.status ∉ task.wanted
  gone : ∀ (j : Nat) v, s.servers[j]? = some v → v.present = false → v.task = none

structure Booked (s : State) : Prop where
  books : (∀ c ∈ s.calls, c.dirty = false) → s.Balanced s.gauge
  listings : ∀ (i : Nat) c count, s.calls[i]? = some c → c.stage = .listed count → OnlyDirty i s.calls →
    s.Balanced count

section Tasks
variable {s : State} {i j : Nat} {before : Call}

theorem wanted_of_operation {operation : Operation} {task : Task} (same : operation.name = task.operation) :
    operation.wanted = task.wanted := by
  cases operation <;> cases task <;> first | rfl | (simp [Operation.name, Task.operation] at same)

/-- A call that goes on keeps the tasks owned that it has requested. -/
theorem Owned.call_set (owned : Owned s) (here : s.calls[i]? = some before) {after : Call} {world : World}
    (kept : ∀ v task, s.servers[before.server]? = some v → v.task = some task → before.Requested task →
      after.server = before.server ∧ after.Requested task) :
    Owned { s with calls := s.calls.set i after, world := world } where
  requested j v task at_j has := by
    obtain ⟨k, c, found, server, requested⟩ := owned.requested j v task at_j has
    by_cases same : k = i
    · subst same
      cases here.symm.trans found
      subst server
      obtain ⟨stays, still⟩ := kept v task at_j has requested
      exact ⟨k, after, by rw [List.getElem?_set_self (List.getElem?_eq_some_iff.mp here).1], stays, still⟩
    · exact ⟨k, c, by rw [List.getElem?_set_ne (Ne.symm same)]; exact found, server, requested⟩
  unsettled := owned.unsettled
  gone := owned.gone

theorem Owned.call_append (owned : Owned s) (c : Call) : Owned { s with calls := s.calls ++ [c] } where
  requested j v task at_j has := by
    obtain ⟨k, c, found, server, requested⟩ := owned.requested j v task at_j has
    have inside := (List.getElem?_eq_some_iff.mp found).1
    exact ⟨k, c, by rw [List.getElem?_append_left inside]; exact found, server, requested⟩
  unsettled := owned.unsettled
  gone := owned.gone

/-- Nova replaces a server, with no task or with one that a call has requested. -/
theorem Owned.server_set (owned : Owned s) {v : Server}
    (requested : ∀ task, v.task = some task → ∃ (k : Nat) (c : Call), s.calls[k]? = some c ∧ c.server = j ∧
      c.Requested task)
    (unsettled : ∀ task, v.task = some task → v.status ∉ task.wanted)
    (gone : v.present = false → v.task = none) : Owned { s with servers := s.servers.set j v } where
  requested k u task at_k has := by
    obtain ⟨rfl, rfl⟩ | ⟨_, found⟩ := Parties.of_set at_k
    · exact requested task has
    · exact owned.requested k u task found has
  unsettled k u task at_k has := by
    obtain ⟨_, rfl⟩ | ⟨_, found⟩ := Parties.of_set at_k
    · exact unsettled task has
    · exact owned.unsettled k u task found has
  gone k u at_k absent := by
    obtain ⟨_, rfl⟩ | ⟨_, found⟩ := Parties.of_set at_k
    · exact gone absent
    · exact owned.gone k u found absent

end Tasks

section Books
variable {s t : State} {i : Nat} {before after : Call}

/-- While a stop or a delete is on its way to its listing nothing is promised. -/
theorem booked_of_dirty {k : Nat} {c : Call} (found : s.calls[k]? = some c) (dirty : c.dirty = true)
    (unlisted : c.stage.isListed = false) : Booked s where
  books clean := by
    have no := clean c (List.mem_of_getElem? found)
    rw [dirty] at no
    contradiction
  listings i other count here listed only := by
    have different : k ≠ i := by
      rintro rfl
      cases found.symm.trans here
      rw [listed] at unlisted
      contradiction
    have no := only k c different found
    rw [dirty] at no
    contradiction

/-- A step that writes nothing, keeps the balance and the calls that matter. -/
theorem Booked.steady (booked : Booked s) (gauge : t.gauge = s.gauge)
    (balance : ∀ count, s.Balanced count → t.Balanced count)
    (clean : ∀ (k : Nat) c, s.calls[k]? = some c → ∃ c', t.calls[k]? = some c' ∧ c'.dirty = c.dirty)
    (listed : ∀ (k : Nat) c' count, t.calls[k]? = some c' → c'.stage = .listed count →
      ∃ c, s.calls[k]? = some c ∧ c.stage = .listed count) : Booked t where
  books none := by
    rw [gauge]
    apply balance
    apply booked.books
    intro c member
    obtain ⟨k, found⟩ := List.mem_iff_getElem?.mp member
    obtain ⟨c', found', same⟩ := clean k c found
    rw [← same]
    exact none c' (List.mem_of_getElem? found')
  listings i c' count here stage only := by
    obtain ⟨c, found, stage'⟩ := listed i c' count here stage
    apply balance
    apply booked.listings i c count found stage'
    intro k other different there
    obtain ⟨other', there', same⟩ := clean k other there
    rw [← same]
    exact only k other' different there'

/-- One call goes on without becoming dirty or listed. -/
theorem Booked.call_set (booked : Booked s) (here : s.calls[i]? = some before) (after : Call)
    (dirty : after.dirty = before.dirty) (unlisted : after.stage.isListed = false)
    (calls : t.calls = s.calls.set i after) (gauge : t.gauge = s.gauge)
    (balance : ∀ count, s.Balanced count → t.Balanced count) : Booked t := by
  have inside := (List.getElem?_eq_some_iff.mp here).1
  refine booked.steady gauge balance ?_ ?_
  · intro k c found
    rw [calls]
    by_cases same : k = i
    · subst same
      cases here.symm.trans found
      exact ⟨after, by rw [List.getElem?_set_self inside], dirty⟩
    · exact ⟨c, by rw [List.getElem?_set_ne (Ne.symm same)]; exact found, rfl⟩
  · intro k c' count found stage
    rw [calls] at found
    obtain ⟨_, rfl⟩ | ⟨_, found⟩ := Parties.of_set found
    · rw [stage] at unlisted
      contradiction
    · exact ⟨c', found, stage⟩

end Books

/- The invariant of a run. -/
structure Sound (s : State) : Prop where
  owned : Owned s
  booked : Booked s

section Moves
variable {s t : State} {i j : Nat} {c : Call} {stage : Stage} {w : World}

theorem observe_ok {α : Type} {part : Env → M α} {a : α} (seen : s.observe j part = some (a, w)) :
    part (nova s.servers j) s.world = .ok a w := by
  unfold State.observe at seen
  split at seen
  · cases seen
    assumption
  · contradiction

theorem gauge_of_metrics (metrics : w.metrics = s.world.metrics) (i : Nat) (c : Call) (stage : Stage) :
    (s.move i c stage w).gauge = s.gauge := by
  simp only [State.gauge, State.move, metrics]

/-- A call that neither adds to what is owed nor takes from it. -/
theorem balanced_move {count : Int} (here : s.calls[i]? = some c)
    (owing : Call.owing ⟨c.operation, c.server, stage⟩ = c.owing)
    (balanced : s.Balanced count) : (s.move i c stage w).Balanced count := by
  have same := Parties.countP_set_same (⟨c.operation, c.server, stage⟩ : Call) Call.owing here owing
  simp only [State.Balanced, State.uncounted, State.active, State.underway, State.move] at balanced ⊢
  rw [same]
  exact balanced

/-- A call that has requested nothing, or has seen that what it requested is done. -/
theorem Sound.move (sound : Sound s) (here : s.calls[i]? = some c) (metrics : w.metrics = s.world.metrics)
    (owing : Call.owing ⟨c.operation, c.server, stage⟩ = c.owing)
    (dirty : Call.dirty ⟨c.operation, c.server, stage⟩ = c.dirty) (unlisted : stage.isListed = false)
    (kept : ∀ v task, s.servers[c.server]? = some v → v.task = some task → c.Requested task →
      Call.Requested ⟨c.operation, c.server, stage⟩ task) : Sound (s.move i c stage w) where
  owned := sound.owned.call_set here (fun v task found has requested => ⟨rfl, kept v task found has requested⟩)
  booked := sound.booked.call_set here _ dirty unlisted rfl (gauge_of_metrics metrics i c stage)
    (fun _ balanced => balanced_move here owing balanced)

theorem checkState_unmetered (operation : Operation) (id : String) (servers : List Server) (j : Nat) (w : World) :
    wp (checkState (nova servers j) operation id) w (fun _ t => t.metrics = w.metrics) (fun _ _ => True) := by
  rw [checkState, wp_bind]
  refine wp_mono (getVm_sees id) ?_ (fun _ _ _ => trivial)
  rintro detail t ⟨_, metrics⟩
  cases validateState (statusOf detail) operation.name with
  | ok _ => exact metrics
  | error exc => trivial

theorem Sound.check (sound : Sound s) (here : s.calls[i]? = some c) (called : c.stage = .called)
    (next : s.check i c = some t) : Sound t := by
  simp only [State.check, Option.bind_eq_bind, Option.bind_eq_some_iff, Option.pure_def, Option.some.injEq] at next
  obtain ⟨⟨_, w⟩, seen, rfl⟩ := next
  have metrics := wp_of_ok (checkState_unmetered _ _ _ _ _) (observe_ok seen)
  refine sound.move here metrics ?_ ?_ rfl ?_
  · cases operation : c.operation <;> simp [Call.owing, operation, called]
  · cases operation : c.operation <;> simp [Call.dirty, operation, called]
  · rintro v task _ _ ⟨_, waiting | ⟨_, ready⟩⟩
    · rw [called] at waiting
      contradiction
    · rw [called] at ready
      contradiction

theorem Sound.poll (sound : Sound s) (here : s.calls[i]? = some c) (waiting : c.stage = .waiting)
    (next : s.poll i c = some t) : Sound t := by
  simp only [State.poll, Option.bind_eq_bind, Option.bind_eq_some_iff] at next
  obtain ⟨⟨detail, w⟩, seen, next⟩ := next
  split at next
  · rename_i reached
    cases next
    obtain ⟨⟨v, found, status⟩, metrics⟩ := wp_of_ok (getVm_sees _) (observe_ok seen)
    -- the server has the status that a task of this call would still be leading to
    have done : ∀ v task, s.servers[c.server]? = some v → v.task = some task → c.Requested task →
        Call.Requested ⟨c.operation, c.server, .ready⟩ task := by
      intro u task at_server has requested
      cases found.symm.trans at_server
      have unsettled := sound.owned.unsettled _ _ _ found has
      rw [← wanted_of_operation requested.1, ← status] at unsettled
      contradiction
    cases operation : c.operation with
    | delete =>
      rw [operation] at reached
      contradiction
    | stop =>
      refine ⟨sound.owned.call_set here (fun v task found has requested =>
        ⟨rfl, done v task found has requested⟩), ?_⟩
      refine booked_of_dirty (k := i) (c := ⟨c.operation, c.server, .ready⟩) ?_ (by simp [Call.dirty, operation]) rfl
      exact List.getElem?_set_self (List.getElem?_eq_some_iff.mp here).1
    | create request =>
      exact sound.move here metrics (by simp [Call.owing, operation, waiting]) (by simp [Call.dirty, operation]) rfl
        done
    | start =>
      exact sound.move here metrics (by simp [Call.owing, operation, waiting]) (by simp [Call.dirty, operation]) rfl
        done
    | reboot =>
      exact sound.move here metrics (by simp [Call.owing, operation]) (by simp [Call.dirty, operation]) rfl done
  · contradiction

theorem Sound.giveUp (sound : Sound s) (here : s.calls[i]? = some c) (operation : c.operation = .delete) :
    Sound (s.move i c .ready s.world) where
  owned := by
    refine sound.owned.call_set here (fun v task _ _ requested => ⟨rfl, requested.1, .inr ⟨?_, rfl⟩⟩)
    rw [operation]
    rfl
  booked := by
    refine booked_of_dirty (k := i) (c := ⟨c.operation, c.server, .ready⟩) ?_ (by simp [Call.dirty, operation]) rfl
    exact List.getElem?_set_self (List.getElem?_eq_some_iff.mp here).1

/-- A call past its wait has requested nothing that is not done, unless it deletes. -/
theorem not_requested_ready (ready : c.stage = .ready) (other : c.operation.name ≠ "delete") (task : Task) :
    ¬ c.Requested task := by
  rintro ⟨_, waiting | ⟨delete, _⟩⟩
  · rw [ready] at waiting
    contradiction
  · exact other delete

theorem not_requested_early (early : c.stage = .called ∨ c.stage = .checked) (task : Task) : ¬ c.Requested task := by
  rintro ⟨_, waiting | ⟨_, ready⟩⟩
  · rw [waiting] at early
    simp at early
  · rw [ready] at early
    simp at early

theorem not_requested_listed {count : Nat} (listed : c.stage = .listed count) (task : Task) : ¬ c.Requested task := by
  rintro ⟨_, waiting | ⟨_, ready⟩⟩
  · rw [listed] at waiting
    contradiction
  · rw [listed] at ready
    contradiction

/-- A listing that is answered in a calm moment shows what the gauge should. -/
theorem Sound.list (sound : Sound s) (here : s.calls[i]? = some c) (ready : c.stage = .ready)
    (operation : c.operation = .stop ∨ c.operation = .delete) (quiet : calm s (.list i) = true)
    (next : s.list i c = some t) : Sound t := by
  simp only [State.list, Option.bind_eq_bind, Option.bind_eq_some_iff, Option.pure_def, Option.some.injEq] at next
  obtain ⟨⟨count, w⟩, seen, rfl⟩ := next
  obtain ⟨counted, _⟩ := wp_of_ok countActive_sees (observe_ok seen)
  simp only [calm, Bool.and_eq_true, decide_eq_true_eq] at quiet
  obtain ⟨even, gone⟩ := quiet
  have inside := (List.getElem?_eq_some_iff.mp here).1
  have dirty : Call.dirty ⟨c.operation, c.server, .listed count⟩ = true := by
    obtain stop | delete := operation
    · simp [Call.dirty, stop]
    · simp [Call.dirty, delete]
  have self : (s.move i c (.listed count) w).calls[i]? = some ⟨c.operation, c.server, .listed count⟩ :=
    List.getElem?_set_self inside
  constructor
  · refine sound.owned.call_set here (fun v task found has requested => ?_)
    obtain stop | delete := operation
    · exact absurd requested (not_requested_ready ready (by rw [stop]; decide) task)
    · obtain ⟨op, server, stage⟩ := c
      cases delete
      rw [here] at gone
      simp only [found, Option.all_some, Bool.not_eq_true'] at gone
      have none := sound.owned.gone _ _ found gone
      rw [none] at has
      contradiction
  · constructor
    · intro clean
      have no := clean _ (List.mem_of_getElem? self)
      rw [dirty] at no
      contradiction
    · intro k other n found listed only
      by_cases same : k = i
      · subst same
        cases self.symm.trans found
        cases listed
        have owed : Call.owing ⟨c.operation, c.server, .listed count⟩ = c.owing := by
          obtain stop | delete := operation
          · simp [Call.owing, stop]
          · simp [Call.owing, delete]
        refine balanced_move here owed ?_
        simp only [State.Balanced, State.active, counted, even]
      · have no := only i _ (Ne.symm same) self
        rw [dirty] at no
        contradiction

/-- No other listing is waiting to be written. -/
theorem calm_finish (quiet : calm s (.finish i) = true) (here : s.calls[i]? = some c)
    (operation : c.operation.name ≠ "reboot") {k : Nat} {other : Call} (different : k ≠ i)
    (found : s.calls[k]? = some other) : other.stage.isListed = false := by
  have others : (s.calls.eraseIdx i).all (fun c => !c.stage.isListed) = true := by
    simp only [calm, here] at quiet
    split at quiet
    · rename_i same
      cases same
      exact absurd rfl operation
    · exact quiet
  have unlisted := List.all_eq_true.mp others other (List.mem_eraseIdx_iff_getElem?.mpr ⟨k, different, found⟩)
  simpa using unlisted

/-- The write of a call that nothing else waits to write after. -/
theorem booked_of_finish {world : World}
    (alone : ∀ (k : Nat) other, k ≠ i → s.calls[k]? = some other → other.stage.isListed = false)
    (balanced : OnlyDirty i s.calls → (s.move i c .returned world).Balanced (s.move i c .returned world).gauge) :
    Booked (s.move i c .returned world) where
  books clean := by
    apply balanced
    intro k other different found
    apply clean other
    have still : (s.move i c .returned world).calls[k]? = some other := by
      rw [← found]
      exact List.getElem?_set_ne (Ne.symm different)
    exact List.mem_of_getElem? still
  listings k other count found listed _ := by
    obtain ⟨_, rfl⟩ | ⟨different, found⟩ := Parties.of_set found
    · contradiction
    · have unlisted := alone k other different found
      rw [listed] at unlisted
      contradiction

theorem Sound.count (sound : Sound s) (here : s.calls[i]? = some c) (ready : c.stage = .ready)
    (operation : c.operation.name = "create" ∨ c.operation.name = "start") (owing : c.owing = true)
    (undirty : c.dirty = false) (quiet : calm s (.finish i) = true) : Sound (s.count i c) where
  owned := by
    refine sound.owned.call_set here (fun v task _ _ requested => ?_)
    refine absurd requested (not_requested_ready ready ?_ task)
    obtain name | name := operation <;> rw [name] <;> decide
  booked := by
    refine booked_of_finish (fun k other different found => calm_finish quiet here ?_ different found) ?_
    · obtain name | name := operation <;> rw [name] <;> decide
    · intro only
      have clean : ∀ c ∈ s.calls, c.dirty = false := by
        intro other member
        obtain ⟨k, found⟩ := List.mem_iff_getElem?.mp member
        by_cases same : k = i
        · subst same
          cases here.symm.trans found
          exact undirty
        · exact only k other same found
      have balanced := sound.booked.books clean
      have moved := Parties.countP_set (⟨c.operation, c.server, .returned⟩ : Call) Call.owing here
      have none : Call.owing ⟨c.operation, c.server, .returned⟩ = false := by
        cases name : c.operation <;> simp [Call.owing]
      simp only [owing, none, if_true, Bool.false_eq_true, if_false] at moved
      simp only [State.Balanced, State.gauge, State.uncounted, State.active, State.underway, State.move] at balanced ⊢
      omega

theorem Sound.write (sound : Sound s) (here : s.calls[i]? = some c) {count : Nat} (listed : c.stage = .listed count)
    (operation : c.operation.name = "stop" ∨ c.operation.name = "delete") (quiet : calm s (.finish i) = true) :
    Sound (s.write i c count) where
  owned := sound.owned.call_set here (fun v task _ _ requested =>
    absurd requested (not_requested_listed listed task))
  booked := by
    refine booked_of_finish (fun k other different found => calm_finish quiet here ?_ different found) ?_
    · obtain name | name := operation <;> rw [name] <;> decide
    · intro only
      have balanced := sound.booked.listings i c count here listed only
      refine balanced_move here ?_ balanced
      cases name : c.operation <;> simp [Call.owing, name, listed]

end Moves

section Requests
variable {s t : State} {i j : Nat} {c : Call} {v begun : Server}

/-- What Nova makes of an accepted request. -/
theorem accept_cases (accepted : accept c.operation v = some begun) :
    (c.operation = .start ∧ v.task = none ∧ v.status ∈ validStateTransitions "start" ∧
      begun = { v with task := some .starting }) ∨
    (c.operation = .stop ∧ v.task = none ∧ v.status ∈ validStateTransitions "stop" ∧
      begun = { v with task := some .stopping }) ∨
    (c.operation = .reboot ∧ v.task = none ∧ v.status ∈ validStateTransitions "reboot" ∧
      begun = ⟨"REBOOT", some .rebooting⟩) ∨
    (c.operation = .delete ∧ begun = if v.present then { v with task := some .deleting } else v) := by
  cases operation : c.operation with
  | create request =>
    rw [operation] at accepted
    contradiction
  | delete =>
    rw [operation] at accepted
    exact .inr (.inr (.inr ⟨rfl, (Option.some.inj accepted).symm⟩))
  | start =>
    simp only [accept, operation, Option.ite_none_right_eq_some, Option.some.injEq] at accepted
    exact .inl ⟨rfl, accepted.1.1, accepted.1.2, accepted.2.symm⟩
  | stop =>
    simp only [accept, operation, Option.ite_none_right_eq_some, Option.some.injEq] at accepted
    exact .inr (.inl ⟨rfl, accepted.1.1, accepted.1.2, accepted.2.symm⟩)
  | reboot =>
    simp only [accept, operation, Option.ite_none_right_eq_some, Option.some.injEq] at accepted
    exact .inr (.inr (.inl ⟨rfl, accepted.1.1, accepted.1.2, accepted.2.symm⟩))

/-- No operation is meant for a server that is gone. -/
theorem present_of_allowed {operation : String} (allowed : v.status ∈ validStateTransitions operation) :
    v.present = true := by
  by_contra absent
  have deleted : v.status = "DELETED" := by simpa [Server.present] using absent
  rw [deleted, validStateTransitions] at allowed
  simp only [List.lookup_cons, List.lookup_nil] at allowed
  repeat' split at allowed
  all_goals simp at allowed

/-- The task that Nova then has was requested, and is not done before it has begun. -/
theorem accept_owned (accepted : accept c.operation v = some begun) (gone : v.present = false → v.task = none) :
    (∀ task, begun.task = some task → c.operation.name = task.operation ∧ begun.status ∉ task.wanted) ∧
      (begun.present = false → begun.task = none) := by
  obtain ⟨op, _, from_start, rfl⟩ | ⟨op, _, from_stop, rfl⟩ | ⟨op, _, _, rfl⟩ | ⟨op, rfl⟩ := accept_cases accepted
  · constructor
    · intro task has
      cases has
      refine ⟨by rw [op]; rfl, ?_⟩
      intro active
      rw [List.mem_singleton.mp active] at from_start
      contradiction
    · intro absent
      exact absurd (present_of_allowed from_start) (by simpa [Server.present] using absent)
  · constructor
    · intro task has
      cases has
      refine ⟨by rw [op]; rfl, ?_⟩
      have running : v.status = "ACTIVE" ∨ v.status = "PAUSED" := by
        simpa [validStateTransitions, List.lookup_cons] using from_stop
      obtain status | status := running <;> simp [Task.wanted, status]
    · intro absent
      exact absurd (present_of_allowed from_stop) (by simpa [Server.present] using absent)
  · constructor
    · intro task has
      cases has
      exact ⟨by rw [op]; rfl, by decide⟩
    · intro absent
      contradiction
  · split
    · rename_i present
      constructor
      · intro task has
        cases has
        exact ⟨by rw [op]; rfl, by simp [Task.wanted]⟩
      · intro absent
        exact absurd absent (by simpa [Server.present] using present)
    · rename_i absent
      have none := gone (by simpa using absent)
      constructor
      · intro task has
        rw [none] at has
        contradiction
      · exact gone

theorem Owned.request (owned : Owned s) (here : s.calls[i]? = some c) (early : c.stage = .called ∨ c.stage = .checked)
    (found : s.servers[c.server]? = some v) (accepted : accept c.operation v = some begun) (w : World) :
    Owned { s.move i c .waiting w with servers := s.servers.set c.server begun } := by
  have waiting : Owned (s.move i c .waiting w) :=
    owned.call_set here (fun _ task _ _ requested => absurd requested (not_requested_early early task))
  have fits := accept_owned accepted (owned.gone _ _ found)
  refine Owned.server_set waiting ?_ (fun task has => (fits.1 task has).2) fits.2
  intro task has
  have self : (s.move i c .waiting w).calls[i]? = some ⟨c.operation, c.server, .waiting⟩ :=
    List.getElem?_set_self (List.getElem?_eq_some_iff.mp here).1
  exact ⟨i, _, self, rfl, (fits.1 task has).1, .inl rfl⟩

theorem Sound.requestOn (sound : Sound s) (here : s.calls[i]? = some c) (checked : c.stage = .checked)
    (next : s.requestOn i c = some t) : Sound t := by
  simp only [State.requestOn, Option.bind_eq_bind, Option.bind_eq_some_iff, Option.pure_def,
    Option.some.injEq] at next
  obtain ⟨v, found, begun, accepted, ⟨_, w⟩, sent, rfl⟩ := next
  have metrics := wp_of_ok (send_unmetered _ _) (observe_ok sent)
  have self : (s.move i c .waiting w).calls[i]? = some ⟨c.operation, c.server, .waiting⟩ :=
    List.getElem?_set_self (List.getElem?_eq_some_iff.mp here).1
  refine ⟨sound.owned.request here (.inr checked) found accepted w, ?_⟩
  obtain ⟨op, idle, from_start, rfl⟩ | ⟨op, _, _, rfl⟩ | ⟨op, idle, from_reboot, rfl⟩ | ⟨op, rfl⟩ :=
    accept_cases accepted
  · -- one more to be counted, one more on its way
    refine sound.booked.call_set here ⟨c.operation, c.server, .waiting⟩
      (by simp [Call.dirty, op]) rfl rfl (gauge_of_metrics metrics i c .waiting) ?_
    intro count balanced
    have owed := Parties.countP_set_more (⟨c.operation, c.server, .waiting⟩ : Call) Call.owing here
      (by simp [Call.owing, op, checked]) (by simp [Call.owing, op])
    have coming := Parties.countP_set_more ({ v with task := some .starting } : Server) Server.underway found
      (by simp [Server.underway, idle]) rfl
    have same := Parties.countP_set_same ({ v with task := some .starting } : Server)
      (fun v => decide (v.status = "ACTIVE")) found rfl
    simp only [State.Balanced, State.uncounted, State.active, State.underway, State.move] at balanced ⊢
    rw [owed, coming, same]
    omega
  · exact booked_of_dirty self (by simp [Call.dirty, op]) rfl
  · -- an ACTIVE server is on its way to ACTIVE again
    have active : v.status = "ACTIVE" := by simpa [validStateTransitions, List.lookup_cons] using from_reboot
    refine sound.booked.call_set here ⟨c.operation, c.server, .waiting⟩
      (by simp [Call.dirty, op]) rfl rfl (gauge_of_metrics metrics i c .waiting) ?_
    intro count balanced
    have owed := Parties.countP_set_same (⟨c.operation, c.server, .waiting⟩ : Call) Call.owing here
      (by simp [Call.owing, op])
    have coming := Parties.countP_set_more (⟨"REBOOT", some .rebooting⟩ : Server) Server.underway found
      (by simp [Server.underway, idle]) rfl
    have fewer := Parties.countP_set (⟨"REBOOT", some .rebooting⟩ : Server)
      (fun v => decide (v.status = "ACTIVE")) found
    simp only [active, decide_true, if_true, String.reduceEq, decide_false, Bool.false_eq_true, if_false] at fewer
    simp only [State.Balanced, State.uncounted, State.active, State.underway, State.move] at balanced ⊢
    rw [owed, coming]
    omega
  · exact booked_of_dirty self (by simp [Call.dirty, op]) rfl

/-- A server that Nova builds for the call that is known to wait for it. -/
theorem Owned.build (owned : Owned s) {k : Nat} (waits : s.calls[k]? = some c) (server : c.server = s.servers.length)
    (requested : c.Requested .building) : Owned { s with servers := s.servers ++ [⟨"BUILD", some .building⟩] } := by
  have old {j : Nat} {v : Server} (found : (s.servers ++ [(⟨"BUILD", some .building⟩ : Server)])[j]? = some v) :
      (j = s.servers.length ∧ v = ⟨"BUILD", some .building⟩) ∨ s.servers[j]? = some v := by
    rw [List.getElem?_append] at found
    split at found
    · exact .inr found
    · obtain ⟨zero, same⟩ := List.getElem?_eq_some_iff.mp found
      simp only [List.length_singleton] at zero
      refine .inl ⟨by omega, ?_⟩
      rw [← same]
      simp
  constructor
  · intro j v task found has
    obtain ⟨rfl, rfl⟩ | found := old found
    · cases has
      exact ⟨k, c, waits, server, requested⟩
    · exact owned.requested j v task found has
  · intro j v task found has
    obtain ⟨_, rfl⟩ | found := old found
    · cases has
      decide
    · exact owned.unsettled j v task found has
  · intro j v found absent
    obtain ⟨_, rfl⟩ | found := old found
    · contradiction
    · exact owned.gone j v found absent

theorem Sound.requestCreate (sound : Sound s) (here : s.calls[i]? = some c) (called : c.stage = .called)
    {request : VMCreateRequest} (op : c.operation = .create request)
    (next : s.requestCreate i c = some t) : Sound t := by
  simp only [State.requestCreate, Option.bind_eq_bind, Option.bind_eq_some_iff, Option.pure_def,
    Option.some.injEq] at next
  obtain ⟨⟨_, w⟩, sent, rfl⟩ := next
  have metrics := wp_of_ok (send_unmetered _ _) (observe_ok sent)
  let after : Call := ⟨c.operation, s.servers.length, .waiting⟩
  have self : (s.calls.set i after)[i]? = some after :=
    List.getElem?_set_self (List.getElem?_eq_some_iff.mp here).1
  constructor
  · have waiting : Owned { s with calls := s.calls.set i after, world := w } :=
      sound.owned.call_set here (fun _ task _ _ requested => absurd requested (not_requested_early (.inl called) task))
    exact Owned.build waiting self rfl ⟨by rw [op]; rfl, .inl rfl⟩
  · refine sound.booked.call_set here after (by simp [after, Call.dirty, op]) rfl rfl
      (gauge_of_metrics metrics i after .waiting) ?_
    intro count balanced
    have owed := Parties.countP_set_more after Call.owing here (by simp [Call.owing, op, called])
      (by simp [after, Call.owing, op])
    have coming : Server.underway ⟨"BUILD", some .building⟩ = true := rfl
    simp only [State.Balanced, State.uncounted, State.active, State.underway, State.move, List.countP_append,
      List.countP_singleton, coming] at balanced ⊢
    rw [owed]
    simp only [String.reduceEq, decide_false, Bool.false_eq_true, if_false, if_true]
    omega

end Requests

section Run
variable {s t : State} {i j : Nat} {c : Call}

/-- A stop or a delete waits for the task that Nova is doing for it. -/
theorem requested_dirty {task : Task} (requested : c.Requested task) (stops : task = .stopping ∨ task = .deleting) :
    c.dirty = true ∧ c.stage.isListed = false := by
  obtain ⟨op, server, stage⟩ := c
  obtain ⟨name, waiting | ⟨delete, ready⟩⟩ := requested
  · cases waiting
    obtain rfl | rfl := stops <;> cases op <;>
      first | exact ⟨rfl, rfl⟩ | (simp [Operation.name, Task.operation] at name)
  · cases ready
    cases op <;> first | exact ⟨rfl, rfl⟩ | (simp [Operation.name] at delete)

theorem Sound.settle (sound : Sound s) {status : String} {task : Task}
    (found : s.servers[j]? = some ⟨status, some task⟩) :
    Sound { s with servers := s.servers.set j (settled task) } where
  owned := by
    have idle : (settled task).task = none := by cases task <;> rfl
    refine Owned.server_set sound.owned (fun other has => ?_) (fun other has => ?_) (fun _ => idle)
    · rw [idle] at has
      contradiction
    · rw [idle] at has
      contradiction
  booked := by
    obtain ⟨k, c, waits, _, requested⟩ := sound.owned.requested j _ task found rfl
    by_cases stops : task = .stopping ∨ task = .deleting
    · obtain ⟨dirty, unlisted⟩ := requested_dirty requested stops
      exact booked_of_dirty waits dirty unlisted
    · have arrives : settled task = ⟨"ACTIVE", none⟩ ∧ task.wanted = ["ACTIVE"] ∧
          Server.underway ⟨status, some task⟩ = true := by
        cases task <;> first | exact ⟨rfl, rfl, rfl⟩ | (simp at stops)
      obtain ⟨active, wanted, underway⟩ := arrives
      have before : status ≠ "ACTIVE" := by
        have unsettled := sound.owned.unsettled j _ task found rfl
        rw [wanted] at unsettled
        simpa using unsettled
      refine sound.booked.steady rfl ?_ (fun k c found => ⟨c, found, rfl⟩) (fun k c _ found stage => ⟨c, found, stage⟩)
      intro count balanced
      rw [active]
      have more := Parties.countP_set_more (⟨"ACTIVE", none⟩ : Server) (fun v => decide (v.status = "ACTIVE")) found
        (by simpa using before) rfl
      have fewer := Parties.countP_set (⟨"ACTIVE", none⟩ : Server) Server.underway found
      have idle : Server.underway ⟨"ACTIVE", none⟩ = false := rfl
      simp only [underway, idle, if_true, Bool.false_eq_true, if_false] at fewer
      simp only [State.Balanced, State.uncounted, State.active, State.underway] at balanced ⊢
      rw [more]
      omega

theorem Sound.call (sound : Sound s) (operation : Operation) (server : Nat) :
    Sound { s with calls := s.calls ++ [⟨operation, server, .called⟩] } where
  owned := sound.owned.call_append _
  booked := by
    refine sound.booked.steady rfl ?_ ?_ ?_
    · intro count balanced
      have none : Call.owing ⟨operation, server, .called⟩ = false := by cases operation <;> rfl
      simp only [State.Balanced, State.uncounted, State.active, State.underway, List.countP_append,
        List.countP_singleton, none] at balanced ⊢
      exact balanced
    · intro k c found
      have inside := (List.getElem?_eq_some_iff.mp found).1
      exact ⟨c, by rw [List.getElem?_append_left inside]; exact found, rfl⟩
    · intro k c' count found stage
      obtain rfl | found := Parties.of_append found
      · contradiction
      · exact ⟨c', found, stage⟩

theorem Sound.act (sound : Sound s) {event : Event} (here : s.calls[i]? = some c)
    (lists : ∀ k, event = .list k → k = i) (finishes : ∀ k, event = .finish k → k = i)
    (quiet : calm s event = true) (next : s.act i c event = some t) : Sound t := by
  unfold State.act at next
  split at next
  · contradiction
  · rename_i stage _
    exact sound.check here stage next
  · rename_i operation stage
    exact sound.requestCreate here stage operation next
  · rename_i stage
    exact sound.requestOn here stage next
  · rename_i stage
    exact sound.poll here stage next
  · rename_i operation stage
    cases next
    exact sound.giveUp here operation
  · rename_i operation stage
    cases lists _ rfl
    exact sound.list here stage (.inl operation) quiet next
  · rename_i operation stage
    cases lists _ rfl
    exact sound.list here stage (.inr operation) quiet next
  · rename_i operation stage
    cases finishes _ rfl
    cases next
    exact sound.count here stage (.inl (by rw [operation]; rfl)) (by simp [Call.owing, operation, stage])
      (by simp [Call.dirty, operation]) quiet
  · rename_i operation stage
    cases finishes _ rfl
    cases next
    exact sound.count here stage (.inr (by rw [operation]; rfl)) (by simp [Call.owing, operation, stage])
      (by simp [Call.dirty, operation]) quiet
  · rename_i operation stage
    cases next
    refine sound.move here rfl (by simp [Call.owing, operation]) (by simp [Call.dirty, operation]) rfl ?_
    intro v task _ _ requested
    exact absurd requested (not_requested_ready stage (by rw [operation]; decide) task)
  · rename_i count operation stage
    cases finishes _ rfl
    cases next
    exact sound.write here stage (.inl (by rw [operation]; rfl)) quiet
  · rename_i count operation stage
    cases finishes _ rfl
    cases next
    exact sound.write here stage (.inr (by rw [operation]; rfl)) quiet
  · contradiction

theorem Sound.step (sound : Sound s) {event : Event} (quiet : calm s event = true)
    (next : s.step event = some t) : Sound t := by
  have acts {i : Nat} (lists : ∀ k, event = .list k → k = i) (finishes : ∀ k, event = .finish k → k = i)
      (next : (s.calls[i]? >>= fun c => s.act i c event) = some t) : Sound t := by
    obtain ⟨c, here, next⟩ := Option.bind_eq_some_iff.mp next
    exact sound.act here lists finishes quiet next
  cases event with
  | call operation server =>
    cases next
    exact sound.call operation server
  | settle j =>
    simp only [State.step] at next
    split at next
    · rename_i found
      cases next
      exact sound.settle found
    · contradiction
  | check i => exact acts nofun nofun next
  | request i => exact acts nofun nofun next
  | poll i => exact acts nofun nofun next
  | giveUp i => exact acts nofun nofun next
  | list i => exact acts (fun k same => (Event.list.inj same).symm) nofun next
  | finish i => exact acts nofun (fun k same => (Event.finish.inj same).symm) next

/- Servers at rest, no calls, and a gauge that shows the ACTIVE ones. -/
structure AtRest (s : State) : Prop where
  idle : ∀ v ∈ s.servers, v.task = none
  calls : s.calls = []
  gauge : s.gauge = s.active

theorem AtRest.sound (rest : AtRest s) : Sound s where
  owned := by
    have idle {j : Nat} {v : Server} (found : s.servers[j]? = some v) : v.task = none :=
      rest.idle v (List.mem_of_getElem? found)
    constructor
    · intro j v task found has
      rw [idle found] at has
      contradiction
    · intro j v task found has
      rw [idle found] at has
      contradiction
    · intro j v found _
      exact idle found
  booked := by
    constructor
    · intro _
      have none : s.servers.countP Server.underway = 0 := by
        apply List.countP_eq_zero.mpr
        intro v member
        simp [Server.underway, rest.idle v member]
      simp [State.Balanced, State.uncounted, State.underway, rest.calls, rest.gauge, none]
    · intro i c count found
      rw [rest.calls] at found
      contradiction

/-- A call that has returned owes nothing, and Nova has nothing left to do for it. -/
theorem Sound.returned (sound : Sound s) (returned : ∀ c ∈ s.calls, c.stage = .returned) : s.gauge = s.active := by
  have clean : ∀ c ∈ s.calls, c.dirty = false := by
    intro c member
    cases operation : c.operation <;> simp [Call.dirty, operation, returned c member]
  have balanced := sound.booked.books clean
  have counted : s.uncounted = 0 := by
    apply List.countP_eq_zero.mpr
    intro c member
    cases operation : c.operation <;> simp [Call.owing, operation, returned c member]
  have arrived : s.underway = 0 := by
    apply Parties.countP_eq_zero_of
    intro j v found
    have idle : v.task = none := by
      cases has : v.task with
      | none => rfl
      | some task =>
        obtain ⟨k, c, waits, _, _, waiting | ⟨_, ready⟩⟩ := sound.owned.requested j v task found has
        · rw [returned c (List.mem_of_getElem? waits)] at waiting
          contradiction
        · rw [returned c (List.mem_of_getElem? waits)] at ready
          contradiction
    simp [Server.underway, idle]
  rw [State.Balanced, counted, arrived] at balanced
  simpa using balanced

/-- In a run in which every listing is answered in a calm moment, the gauge shows the number of
ACTIVE servers whenever all calls have returned. -/
theorem calm_runs_keep_gauge {start : State} (rest : AtRest start) {events : List Event}
    (run : Runs.exec State.step start events = some s)
    (quiet : Runs.Along State.step (fun s event => calm s event = true) start events)
    (returned : ∀ c ∈ s.calls, c.stage = .returned) : s.gauge = s.active := by
  have sound := Runs.invariant_along State.step (I := Sound)
    (fun s event t sound quiet next => sound.step quiet next) rest.sound quiet run
  exact sound.returned returned

end Run

/- One ACTIVE server at the start, and the gauge at one. -/
def oneServer : State :=
  ⟨{ World.initial with metrics := ⟨[], [], [], 1⟩ }, [⟨"ACTIVE", none⟩], []⟩

def someRequest : VMCreateRequest := { name := "web02", flavorId := "f-1", imageId := "i-1", networkIds := [] }

/- A create counts its server before the stop of another one lists. -/
def countedFirst : List Event :=
  [.call (.create someRequest) 0, .request 0, .settle 1, .poll 0, .call .stop 0, .check 1, .request 1, .finish 0,
    .settle 0, .poll 1, .list 1, .finish 1]

/- The same, but that the increment comes last. -/
def countedLast : List Event :=
  [.call (.create someRequest) 0, .request 0, .settle 1, .poll 0, .call .stop 0, .check 1, .request 1, .settle 0,
    .poll 1, .list 1, .finish 1, .finish 0]

theorem oneServer_at_rest : AtRest oneServer where
  idle v member := by
    cases List.mem_singleton.mp member
    rfl
  calls := rfl
  gauge := by decide +kernel

theorem both_returned {s : State} (stages : s.calls.map Call.stage = [.returned, .returned]) :
    ∀ c ∈ s.calls, c.stage = .returned := by
  intro c member
  have listed := List.mem_map_of_mem (f := Call.stage) member
  rw [stages] at listed
  simpa using listed

theorem counted_first_keeps_gauge : ∃ s, Runs.exec State.step oneServer countedFirst = some s ∧
    (∀ c ∈ s.calls, c.stage = .returned) ∧ s.gauge = s.active := by
  have ends : (Runs.exec State.step oneServer countedFirst).map (fun s => s.calls.map Call.stage) =
      some [.returned, .returned] := by decide +kernel
  obtain ⟨s, run, stages⟩ := Option.map_eq_some_iff.mp ends
  have returned := both_returned stages
  have quiet : Runs.Along State.step (fun s event => calm s event = true) oneServer countedFirst := by
    decide +kernel
  exact ⟨s, run, returned, calm_runs_keep_gauge oneServer_at_rest run quiet returned⟩

theorem counted_last_spoils_gauge : ¬ ∀ (start s : State) (events : List Event), AtRest start →
    Runs.exec State.step start events = some s → (∀ c ∈ s.calls, c.stage = .returned) → s.gauge = s.active := by
  intro claim
  have ends : (Runs.exec State.step oneServer countedLast).map
      (fun s => (s.calls.map Call.stage, s.gauge, s.active)) = some ([.returned, .returned], 2, 1) := by
    decide +kernel
  obtain ⟨s, run, final⟩ := Option.map_eq_some_iff.mp ends
  simp only [Prod.mk.injEq] at final
  obtain ⟨stages, gauge, active⟩ := final
  have same := claim oneServer s countedLast oneServer_at_rest run (both_returned stages)
  rw [gauge, active] at same
  contradiction

end VMachine.OpenStack.Gauge
