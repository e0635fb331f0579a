import VMachine.Database.Session
import VMachine.Lib.Pages
import VMachine.Lib.Runs
import VMachine.OpenStack.Tasks

/-! Services that keep records of one kind in one table. Any number of their calls are served at the
same time, each in a session of its own, and give way to each other at every statement: the SELECT
that a call begins with, its COMMIT, and the SELECT that reads the row again. -/
namespace VMachine.Database.Records
open Runs OpenStack Tables

/- A service with rows `ρ` and summaries `σ`. Of the constraints of its table, ids and names are unique.
`alreadyExists` is there where a creation looks for the name first. -/
structure Service (ρ σ : Type) where
  id : ρ → String
  name : ρ → Option String
  fits : ρ → Bool
  createdAt : ρ → Nat
  serialize : ρ → σ
  notFound : Exc
  alreadyExists : Option (ρ → Exc)

variable {ρ σ ι : Type} {service : Service ρ σ}

structure Stored (service : Service ρ σ) where
  rows : List ρ
  ids : (rows.map service.id).Nodup
  names : (rows.filterMap service.name).Nodup
  fit : ∀ row ∈ rows, service.fits row = true

/- What an assignment to attributes of a loaded row makes of the row in the table: the UPDATE sets
those columns that differ from what has been loaded. -/
structure Edit (service : Service ρ σ) where
  write : ρ → Nat → ρ → ρ
  id : ∀ loaded now row, service.id (write loaded now row) = service.id row
  name : ∀ loaded now row, service.name (write loaded now row) = service.name row
  fits : ∀ loaded now row, service.fits row = true → service.fits (write loaded now row) = true

namespace Stored
variable (stored : Stored service)

def keys : List String := stored.rows.map service.id

def find (id : String) : Option ρ := stored.rows.find? (fun row => service.id row == id)

/- `get_…`. -/
def get (id : String) : Except Exc σ :=
  match stored.find id with
  | some row => .ok (service.serialize row)
  | none => .error service.notFound

/- `list_…`, whose query orders the rows by the time of their creation, the latest first. -/
structure Listed (items : List σ) (ordered : List ρ) : Prop where
  descending : Pages.Descending service.createdAt stored.rows ordered
  items : items = ordered.map service.serialize

/- INSERT. -/
def insert (row : ρ) : Except Violation (Stored service) :=
  if passes : service.fits row = true then
    if fresh : service.id row ∉ stored.keys then
      if free : (stored.rows.filterMap service.name ++ [row].filterMap service.name).Nodup then
        .ok {
          rows := stored.rows ++ [row]
          ids := by
            rw [List.map_append]
            exact stored.ids.append (List.nodup_singleton _) (by simpa [keys] using fresh)
          names := by rwa [List.filterMap_append]
          fit := by
            intro other member
            obtain old | new := List.mem_append.mp member
            · exact stored.fit other old
            · cases List.mem_singleton.mp new
              exact passes }
      else .error .unique
    else .error .unique
  else .error .check

/- DELETE. A row that is gone already makes for a warning only. -/
def delete (id : String) : Stored service where
  rows := stored.rows.filter (fun row => service.id row ≠ id)
  ids := stored.ids.sublist (List.filter_sublist.map service.id)
  names := stored.names.sublist (List.filter_sublist.filterMap service.name)
  fit := fun row member => stored.fit row (List.mem_of_mem_filter member)

/- UPDATE of the row of an id. -/
def change (id : String) (edit : Edit service) (loaded : ρ) (now : Nat) : Stored service where
  rows := stored.rows.map (rewrite service.id id (edit.write loaded now))
  ids := by
    have same : service.id ∘ rewrite service.id id (edit.write loaded now) = service.id :=
      funext (key_rewrite id (edit.id loaded now))
    rw [List.map_map, same]
    exact stored.ids
  names := by
    have same : service.name ∘ rewrite service.id id (edit.write loaded now) = service.name := by
      funext row
      simp only [Function.comp, rewrite]
      split
      · exact edit.name loaded now row
      · rfl
    rw [List.filterMap_map, same]
    exact stored.names
  fit := by
    intro row member
    obtain ⟨old, inside, rfl⟩ := List.mem_map.mp member
    unfold rewrite
    split
    · exact edit.fits loaded now old (stored.fit old inside)
    · exact stored.fit old inside

end Stored

inductive Op (service : Service ρ σ) where
  | create (row : ρ)
  | delete (id : String)
  | change (id : String) (edit : Edit service)

/- Where a call is between two statements. `clear` is a creation that has found nobody of its name, or does
not look; `loaded` has its row in the session; `committed` has yet to read the row again. -/
inductive Stage (ρ σ : Type) where
  | started
  | clear
  | loaded (row : ρ)
  | committed
  | returned (summary : Option σ)
  | raised (exc : Exc)

/- What becomes of a COMMIT: it is carried out, or it is and the answer is lost, or it is not. -/
inductive Answer where
  | carried
  | lost
  | refused
  deriving Repr, DecidableEq

inductive Event where
  | look (ok : Bool)
  | commit (now : Nat) (answer : Answer)
  | refresh (ok : Bool)
  deriving Repr, DecidableEq

def staleData : Exc := .foreign "StaleDataError" "UPDATE statement on table expected to update 1 row(s); 0 were matched."

def notRefreshed : Exc := .foreign "InvalidRequestError" "Could not refresh instance"

def Op.begins : Op service → Stage ρ σ
  | .create _ => if service.alreadyExists.isSome then .started else .clear
  | _ => .started

/- The table and the calls. `written` are those whose COMMIT has been carried out, each with the time that
its object was given. -/
structure System (ι : Type) (service : Service ρ σ) where
  stored : Stored service
  stage : ι → Stage ρ σ
  written : List (ι × Nat)

def System.begin (calls : ι → Op service) (stored : Stored service) : System ι service :=
  ⟨stored, fun i => (calls i).begins, []⟩

/- The SELECT at the beginning of a call. -/
def Stored.look (stored : Stored service) : Op service → Stage ρ σ
  | .create row =>
    match service.alreadyExists with
    | none => .clear
    | some exc =>
      match scalarOneOrNone (stored.rows.filter (fun other => service.name other == service.name row)) with
      | .ok none => .clear
      | .ok (some _) => .raised (exc row)
      | .error exc => .raised exc
  | .delete id | .change id _ =>
    match stored.find id with
    | some row => .loaded row
    | none => .raised service.notFound

/- The flush that a commit begins with, and where the call is after the commit. -/
def Stored.flush (stored : Stored service) (now : Nat) :
    Stage ρ σ → Op service → Option (Except Exc (Stored service × Stage ρ σ))
  | .clear, .create row =>
    some (match stored.insert row with
      | .ok stored => .ok (stored, .committed)
      | .error violation => .error (refusal violation))
  | .loaded _, .delete id => some (.ok (stored.delete id, .returned none))
  | .loaded row, .change id edit =>
    some (if id ∈ stored.keys then .ok (stored.change id edit row now, .committed) else .error staleData)
  | _, _ => none

def Op.id : Op service → String
  | .create row => service.id row
  | .delete id | .change id _ => id

section Stepping
variable [DecidableEq ι]

def System.goto (s : System ι service) (i : ι) (stage : Stage ρ σ) : System ι service :=
  { s with stage := Function.update s.stage i stage }

def System.write (s : System ι service) (i : ι) (now : Nat) (stored : Stored service) : System ι service :=
  { s with stored := stored, written := s.written ++ [(i, now)] }

def System.step (calls : ι → Op service) (s : System ι service) : ι × Event → Option (System ι service)
  | (i, .look ok) =>
    match s.stage i with
    | .started => some (s.goto i (if ok then s.stored.look (calls i) else .raised databaseError))
    | _ => none
  | (i, .commit now answer) =>
    (s.stored.flush now (s.stage i) (calls i)).map (fun flushed =>
      match flushed, answer with
      | _, .refused => s.goto i (.raised databaseError)
      | .error exc, _ => s.goto i (.raised exc)
      | .ok (stored, next), .carried => (s.write i now stored).goto i next
      | .ok (stored, _), .lost => (s.write i now stored).goto i (.raised databaseError))
  | (i, .refresh ok) =>
    match s.stage i with
    | .committed =>
      some (s.goto i (if ok then
        match s.stored.find (calls i).id with
        | some row => .returned (some (service.serialize row))
        | none => .raised notRefreshed
      else .raised databaseError))
    | _ => none

end Stepping

section Facts
variable {stored after : Stored service} {k : String}

theorem mem_keys : k ∈ stored.keys ↔ ∃ row ∈ stored.rows, service.id row = k := by
  simp [Stored.keys]

theorem find_eq_some {row : ρ} (found : stored.find k = some row) : row ∈ stored.rows ∧ service.id row = k :=
  ⟨List.mem_of_find?_eq_some found, by simpa using List.find?_some found⟩

theorem find_eq_none : stored.find k = none ↔ k ∉ stored.keys := by
  simp [Stored.find, mem_keys]

theorem rows_of_insert {row : ρ} (inserted : stored.insert row = .ok after) :
    after.rows = stored.rows ++ [row] ∧ service.id row ∉ stored.keys := by
  unfold Stored.insert at inserted
  split at inserted
  · split at inserted
    · rename_i fresh
      split at inserted
      · cases inserted
        exact ⟨rfl, fresh⟩
      · contradiction
    · contradiction
  · contradiction

theorem keys_of_insert {row : ρ} (inserted : stored.insert row = .ok after) :
    after.keys = stored.keys ++ [service.id row] := by
  rw [Stored.keys, (rows_of_insert inserted).1, List.map_append]
  rfl

theorem mem_keys_delete {id : String} : k ∈ (stored.delete id).keys ↔ k ∈ stored.keys ∧ k ≠ id := by
  simp only [mem_keys, Stored.delete, List.mem_filter, decide_eq_true_eq]
  constructor
  · rintro ⟨row, ⟨inside, other⟩, rfl⟩
    exact ⟨⟨row, inside, rfl⟩, other⟩
  · rintro ⟨⟨row, inside, rfl⟩, other⟩
    exact ⟨row, ⟨inside, other⟩, rfl⟩

theorem keys_change {id : String} {edit : Edit service} {loaded : ρ} {now : Nat} :
    (stored.change id edit loaded now).keys = stored.keys := by
  have same : service.id ∘ rewrite service.id id (edit.write loaded now) = service.id :=
    funext (key_rewrite id (edit.id loaded now))
  simp only [Stored.keys, Stored.change, List.map_map, same]

end Facts

/- A flush that the database accepts. -/
inductive Flushes (stored : Stored service) (now : Nat) :
    Stage ρ σ → Op service → Stored service → Stage ρ σ → Prop where
  | create {row : ρ} {after : Stored service} (inserted : stored.insert row = .ok after) :
    Flushes stored now .clear (.create row) after .committed
  | delete (row : ρ) (id : String) : Flushes stored now (.loaded row) (.delete id) (stored.delete id) (.returned none)
  | change (row : ρ) {id : String} (edit : Edit service) (there : id ∈ stored.keys) :
    Flushes stored now (.loaded row) (.change id edit) (stored.change id edit row now) .committed

/- A call that has not come to its COMMIT, or whose COMMIT is next. -/
def Stage.Pending (stage : Stage ρ σ) : Prop := stage = .started ∨ stage = .clear ∨ ∃ row, stage = .loaded row

section Steps
variable {calls : ι → Op service} {s t : System ι service} {stored after : Stored service} {now : Nat} {i j : ι}

theorem flushes_of_ok {stage next : Stage ρ σ} {op : Op service}
    (accepted : stored.flush now stage op = some (.ok (after, next))) : Flushes stored now stage op after next := by
  cases stage with
  | clear =>
    cases op with
    | create row =>
      simp only [Stored.flush, Option.some.injEq] at accepted
      split at accepted
      · rename_i inserted
        cases accepted
        exact .create inserted
      · contradiction
    | delete id => contradiction
    | change id edit => contradiction
  | loaded row =>
    cases op with
    | create row => contradiction
    | delete id =>
      cases accepted
      exact .delete row id
    | change id edit =>
      simp only [Stored.flush, Option.some.injEq] at accepted
      split at accepted
      · rename_i there
        cases accepted
        exact .change row edit there
      · contradiction
  | _ => contradiction

theorem pending_of_flush {stage : Stage ρ σ} {op : Op service} {result : Except Exc (Stored service × Stage ρ σ)}
    (flushed : stored.flush now stage op = some result) : stage.Pending := by
  cases stage with
  | clear => exact .inr (.inl rfl)
  | loaded row => exact .inr (.inr ⟨row, rfl⟩)
  | _ => contradiction

variable [DecidableEq ι]

/-- Everything that a step can do. -/
theorem step_cases {e : Event} (next : s.step calls (i, e) = some t) :
    (e = .look true ∧ s.stage i = .started ∧ t = s.goto i (s.stored.look (calls i))) ∨
    (e = .look false ∧ s.stage i = .started ∧ t = s.goto i (.raised databaseError)) ∨
    (∃ now answer exc, e = .commit now answer ∧ (s.stage i).Pending ∧ t = s.goto i (.raised exc) ∧
      (answer = .refused ∨ s.stored.flush now (s.stage i) (calls i) = some (.error exc))) ∨
    (∃ now answer after onward, e = .commit now answer ∧ Flushes s.stored now (s.stage i) (calls i) after onward ∧
      t = (s.write i now after).goto i (if answer = .lost then .raised databaseError else onward)) ∨
    (e = .refresh true ∧ s.stage i = .committed ∧
      ((∃ row, s.stored.find (calls i).id = some row ∧ t = s.goto i (.returned (some (service.serialize row)))) ∨
        s.stored.find (calls i).id = none ∧ t = s.goto i (.raised notRefreshed))) ∨
    (e = .refresh false ∧ s.stage i = .committed ∧ t = s.goto i (.raised databaseError)) := by
  cases e with
  | look ok =>
    simp only [System.step] at next
    split at next
    · rename_i started
      cases Option.some.inj next
      cases ok with
      | true => exact .inl ⟨rfl, started, rfl⟩
      | false => exact .inr (.inl ⟨rfl, started, rfl⟩)
    · contradiction
  | commit now answer =>
    obtain ⟨result, flushed, rfl⟩ := Option.map_eq_some_iff.mp next
    have pending := pending_of_flush flushed
    cases result with
    | error exc =>
      cases answer with
      | refused => exact .inr (.inr (.inl ⟨now, _, _, rfl, pending, rfl, .inl rfl⟩))
      | carried => exact .inr (.inr (.inl ⟨now, _, _, rfl, pending, rfl, .inr flushed⟩))
      | lost => exact .inr (.inr (.inl ⟨now, _, _, rfl, pending, rfl, .inr flushed⟩))
    | ok result =>
      obtain ⟨after, onward⟩ := result
      have flushes := flushes_of_ok flushed
      cases answer with
      | refused => exact .inr (.inr (.inl ⟨now, _, _, rfl, pending, rfl, .inl rfl⟩))
      | carried => exact .inr (.inr (.inr (.inl ⟨now, _, after, onward, rfl, flushes, rfl⟩)))
      | lost => exact .inr (.inr (.inr (.inl ⟨now, _, after, onward, rfl, flushes, rfl⟩)))
  | refresh ok =>
    simp only [System.step] at next
    split at next
    · rename_i committed
      cases Option.some.inj next
      cases ok with
      | true =>
        refine .inr (.inr (.inr (.inr (.inl ⟨rfl, committed, ?_⟩))))
        cases found : s.stored.find (calls i).id with
        | some row => exact .inl ⟨row, rfl, rfl⟩
        | none => exact .inr ⟨rfl, rfl⟩
      | false => exact .inr (.inr (.inr (.inr (.inr ⟨rfl, committed, rfl⟩))))
    · contradiction

end Steps

def System.writers (s : System ι service) : List ι := s.written.map Prod.fst

/- The ids that creations draw are new, and no two of them draw the same. -/
structure Fresh (calls : ι → Op service) (before : Stored service) : Prop where
  unused : ∀ i row, calls i = .create row → service.id row ∉ before.keys
  apart : ∀ i j row other, calls i = .create row → calls j = .create other → service.id row = service.id other → i = j

def Made (calls : ι → Op service) (before : Stored service) (writers : List ι) (k : String) : Prop :=
  k ∈ before.keys ∨ ∃ i ∈ writers, ∃ row, calls i = .create row ∧ service.id row = k

def Removed (calls : ι → Op service) (writers : List ι) (k : String) : Prop := ∃ i ∈ writers, calls i = .delete k

/- The record has been created, and not deleted. -/
def Stands (calls : ι → Op service) (before : Stored service) (s : System ι service) (k : String) : Prop :=
  Made calls before s.writers k ∧ ¬ Removed calls s.writers k

/- What holds in every state, however the calls take turns. -/
structure Sound (calls : ι → Op service) (before : Stored service) (s : System ι service) : Prop where
  once : s.writers.Nodup
  pending : ∀ i, (s.stage i).Pending → i ∉ s.writers
  done : ∀ i, s.stage i = .committed ∨ (∃ summary, s.stage i = .returned summary) → i ∈ s.writers
  told : ∀ i exc, s.stage i = .raised exc → i ∈ s.writers → exc = databaseError ∨ exc = notRefreshed
  keys : ∀ k, k ∈ s.stored.keys ↔ Stands calls before s k
  known : ∀ i k, calls i = .delete k → (∃ row, s.stage i = .loaded row) ∨ i ∈ s.writers → Made calls before s.writers k

section Soundness
variable {calls : ι → Op service} {before after : Stored service} {s t : System ι service} {now : Nat} {i : ι}

theorem Made.mono {writers more : List ι} {k : String} (made : Made calls before writers k) :
    Made calls before (writers ++ more) k := by
  obtain old | ⟨i, member, row, creates, same⟩ := made
  · exact .inl old
  · exact .inr ⟨i, List.mem_append_left _ member, row, creates, same⟩

theorem made_concat {writers : List ι} {k : String} : Made calls before (writers ++ [i]) k ↔
    Made calls before writers k ∨ ∃ row, calls i = .create row ∧ service.id row = k := by
  constructor
  · rintro (old | ⟨j, member, row, creates, same⟩)
    · exact .inl (.inl old)
    · rcases List.mem_append.mp member with old | last
      · exact .inl (.inr ⟨j, old, row, creates, same⟩)
      · cases List.mem_singleton.mp last
        exact .inr ⟨row, creates, same⟩
  · rintro (made | ⟨row, creates, same⟩)
    · exact made.mono
    · exact .inr ⟨i, List.mem_append_right _ (List.mem_singleton_self i), row, creates, same⟩

theorem removed_concat {writers : List ι} {k : String} : Removed calls (writers ++ [i]) k ↔
    Removed calls writers k ∨ calls i = .delete k := by
  simp only [Removed, List.mem_append, List.mem_singleton, or_and_right, exists_or, exists_eq_left]

/-- A look leaves a call clear, with the row of its id, or with an exception. -/
theorem look_cases {stored : Stored service} {op : Op service} : stored.look op = .clear ∨
    (∃ row, stored.look op = .loaded row ∧ stored.find op.id = some row) ∨ ∃ exc, stored.look op = .raised exc := by
  cases op with
  | create row =>
    unfold Stored.look
    dsimp only
    split
    · exact .inl rfl
    · split
      · exact .inl rfl
      · exact .inr (.inr ⟨_, rfl⟩)
      · exact .inr (.inr ⟨_, rfl⟩)
  | delete id =>
    cases found : stored.find id with
    | some row => exact .inr (.inl ⟨row, by simp [Stored.look, found], found⟩)
    | none => exact .inr (.inr ⟨service.notFound, by simp [Stored.look, found]⟩)
  | change id edit =>
    cases found : stored.find id with
    | some row => exact .inr (.inl ⟨row, by simp [Stored.look, found], found⟩)
    | none => exact .inr (.inr ⟨service.notFound, by simp [Stored.look, found]⟩)

theorem begins_pending (op : Op service) : op.begins = .started ∨ op.begins = .clear := by
  cases op with
  | create row => cases check : service.alreadyExists <;> simp [Op.begins, check]
  | delete id => exact .inl rfl
  | change id edit => exact .inl rfl

theorem sound_begin (calls : ι → Op service) (before : Stored service) : Sound calls before (.begin calls before) where
  once := List.nodup_nil
  pending := by simp [System.writers, System.begin]
  done i ended := by
    rcases begins_pending (calls i) with same | same <;> simp [System.begin, same] at ended
  told := by simp [System.writers, System.begin]
  keys := by simp [Stands, System.writers, System.begin, Made, Removed]
  known := by
    intro i k deletes there
    simp [System.writers, System.begin, Op.begins, deletes] at there

variable [DecidableEq ι]

/-- A step that does not reach the table. -/
theorem Sound.goto (sound : Sound calls before s) {stage : Stage ρ σ} (unsent : stage.Pending → i ∉ s.writers)
    (done : stage = .committed ∨ (∃ summary, stage = .returned summary) → i ∈ s.writers)
    (told : ∀ exc, stage = .raised exc → i ∈ s.writers → exc = databaseError ∨ exc = notRefreshed)
    (known : ∀ row k, stage = .loaded row → calls i = .delete k → Made calls before s.writers k) :
    Sound calls before (s.goto i stage) where
  once := sound.once
  pending j waits := by
    by_cases own : j = i
    · subst own
      exact unsent (by simpa [System.goto] using waits)
    · exact sound.pending j (by simpa [System.goto, own] using waits)
  done j ended := by
    by_cases own : j = i
    · subst own
      exact done (by simpa [System.goto] using ended)
    · exact sound.done j (by simpa [System.goto, own] using ended)
  told j exc raised := by
    by_cases own : j = i
    · subst own
      exact told exc (by simpa [System.goto] using raised)
    · exact sound.told j exc (by simpa [System.goto, own] using raised)
  keys := sound.keys
  known j k deletes there := by
    by_cases own : j = i
    · subst own
      rcases there with ⟨row, loaded⟩ | wrote
      · exact known row k (by simpa [System.goto] using loaded) deletes
      · exact sound.known j k deletes (.inr wrote)
    · refine sound.known j k deletes (there.imp ?_ id)
      rintro ⟨row, loaded⟩
      exact ⟨row, by simpa [System.goto, own] using loaded⟩

omit [DecidableEq ι] in
/-- An accepted flush changes the ids by what its call is for. -/
theorem keys_of_flushes (fresh : Fresh calls before) (sound : Sound calls before s) {onward : Stage ρ σ}
    (flushes : Flushes s.stored now (s.stage i) (calls i) after onward) (k : String) :
    k ∈ after.keys ↔ Made calls before (s.writers ++ [i]) k ∧ ¬ Removed calls (s.writers ++ [i]) k := by
  rw [made_concat, removed_concat]
  generalize stage : s.stage i = here at flushes
  generalize op : calls i = call at flushes
  have unwritten (waits : here.Pending) : i ∉ s.writers := sound.pending i (stage ▸ waits)
  cases flushes with
  | @create row _ inserted =>
    have new := unwritten (.inr (.inl rfl))
    -- nobody can have deleted what is only created now
    have kept : ¬ Removed calls s.writers (service.id row) := by
      rintro ⟨j, wrote, deletes⟩
      obtain old | ⟨c, made, other, creates, same⟩ := sound.known j _ deletes (.inr wrote)
      · exact fresh.unused i row op old
      · obtain rfl := fresh.apart c i other row creates op same
        exact new made
    rw [keys_of_insert inserted, List.mem_append, List.mem_singleton, sound.keys k, Stands]
    constructor
    · rintro (⟨made, held⟩ | rfl)
      · exact ⟨.inl made, by simpa using held⟩
      · exact ⟨.inr ⟨row, rfl, rfl⟩, by simpa using kept⟩
    · rintro ⟨made | ⟨other, same, rfl⟩, held⟩
      · exact .inl ⟨made, fun removed => held (.inl removed)⟩
      · cases same
        exact .inr rfl
  | delete row id =>
    rw [mem_keys_delete, sound.keys k, Stands]
    simp only [reduceCtorEq, false_and, exists_false, or_false, Op.delete.injEq, not_or]
    constructor
    · rintro ⟨⟨made, held⟩, other⟩
      exact ⟨made, held, fun same => other same.symm⟩
    · rintro ⟨made, held, other⟩
      exact ⟨⟨made, held⟩, fun same => other same.symm⟩
  | change row edit there =>
    rw [keys_change, sound.keys k, Stands]
    simp

omit [DecidableEq ι] in
theorem flushes_from {stored : Stored service} {stage onward : Stage ρ σ} {op : Op service}
    (flushes : Flushes stored now stage op after onward) :
    stage.Pending ∧ (onward = .committed ∨ ∃ summary, onward = .returned summary) := by
  cases flushes with
  | create inserted => exact ⟨.inr (.inl rfl), .inl rfl⟩
  | delete row id => exact ⟨.inr (.inr ⟨row, rfl⟩), .inr ⟨none, rfl⟩⟩
  | change row edit there => exact ⟨.inr (.inr ⟨row, rfl⟩), .inl rfl⟩

/-- A step that does. -/
theorem Sound.write (fresh : Fresh calls before) (sound : Sound calls before s) {onward stage : Stage ρ σ}
    (flushes : Flushes s.stored now (s.stage i) (calls i) after onward)
    (goes : stage = onward ∨ stage = .raised databaseError) :
    Sound calls before ((s.write i now after).goto i stage) := by
  obtain ⟨waits, ended⟩ := flushes_from flushes
  have new := sound.pending i waits
  have writers : ((s.write i now after).goto i stage).writers = s.writers ++ [i] := by
    simp [System.writers, System.write, System.goto]
  have busy : ¬ stage.Pending := by
    rcases goes with rfl | rfl
    · rcases ended with rfl | ⟨summary, rfl⟩ <;> simp [Stage.Pending]
    · simp [Stage.Pending]
  constructor
  · rw [writers]
    exact sound.once.append (List.nodup_singleton i) (List.disjoint_singleton.mpr new)
  · intro j waits
    rw [writers]
    by_cases own : j = i
    · subst own
      exact absurd (by simpa [System.goto] using waits) busy
    · have was : (s.stage j).Pending := by simpa [System.goto, System.write, own] using waits
      simpa [own] using sound.pending j was
  · intro j ended
    rw [writers]
    by_cases own : j = i
    · exact List.mem_append_right _ (List.mem_singleton.mpr own)
    · exact List.mem_append_left _ (sound.done j (by simpa [System.goto, System.write, own] using ended))
  · intro j exc raised wrote
    rw [writers] at wrote
    by_cases own : j = i
    · subst own
      have here : stage = .raised exc := by simpa [System.goto] using raised
      rcases goes with rfl | rfl
      · rcases ended with rfl | ⟨summary, rfl⟩ <;> contradiction
      · cases here
        exact .inl rfl
    · have old : j ∈ s.writers := by simpa [own] using wrote
      exact sound.told j exc (by simpa [System.goto, System.write, own] using raised) old
  · intro k
    rw [Stands, writers]
    exact keys_of_flushes fresh sound flushes k
  · intro j k deletes there
    rw [writers]
    refine (sound.known j k deletes ?_).mono
    by_cases own : j = i
    · subst own
      generalize stage : s.stage j = here at flushes
      rw [deletes] at flushes
      cases flushes with
      | delete row id => exact .inl ⟨row, rfl⟩
    · rcases there with ⟨row, loaded⟩ | wrote
      · exact .inl ⟨row, by simpa [System.goto, System.write, own] using loaded⟩
      · rw [writers] at wrote
        exact .inr (by simpa [own] using wrote)

theorem step_sound (fresh : Fresh calls before) (sound : Sound calls before s) {e : ι × Event}
    (next : s.step calls e = some t) : Sound calls before t := by
  obtain ⟨i, e⟩ := e
  obtain ⟨rfl, started, rfl⟩ | ⟨rfl, started, rfl⟩ | ⟨now, answer, exc, rfl, waits, rfl, _⟩ |
    ⟨now, answer, after, onward, rfl, flushes, rfl⟩ | ⟨rfl, committed, found⟩ | ⟨rfl, committed, rfl⟩ := step_cases next
  · have new : i ∉ s.writers := sound.pending i (.inl started)
    obtain clear | ⟨row, loaded, found⟩ | ⟨exc, raised⟩ := @look_cases ρ σ service s.stored (calls i)
    · rw [clear]
      exact sound.goto (fun _ => new) (by simp) (by simp) (by simp)
    · rw [loaded]
      refine sound.goto (fun _ => new) (by simp) (by simp) (fun _ k _ deletes => ?_)
      rw [deletes] at found
      obtain ⟨inside, same⟩ := find_eq_some found
      exact ((sound.keys k).mp (mem_keys.mpr ⟨row, inside, same⟩)).1
    · rw [raised]
      exact sound.goto (fun _ => new) (by simp) (fun _ _ wrote => absurd wrote new) (by simp)
  · have new : i ∉ s.writers := sound.pending i (.inl started)
    exact sound.goto (fun _ => new) (by simp) (fun _ _ wrote => absurd wrote new) (by simp)
  · have new : i ∉ s.writers := sound.pending i waits
    exact sound.goto (fun _ => new) (by simp) (fun _ _ wrote => absurd wrote new) (by simp)
  · refine sound.write fresh flushes ?_
    by_cases lost : answer = .lost
    · exact .inr (if_pos lost)
    · exact .inl (if_neg lost)
  · have wrote : i ∈ s.writers := sound.done i (.inl committed)
    obtain ⟨row, _, rfl⟩ | ⟨_, rfl⟩ := found
    · exact sound.goto (by simp [Stage.Pending]) (fun _ => wrote) (by simp) (by simp)
    · exact sound.goto (by simp [Stage.Pending]) (by simp) (by simp +contextual) (by simp)
  · exact sound.goto (by simp [Stage.Pending]) (by simp) (by simp +contextual) (by simp)

theorem run_sound {es : List (ι × Event)} (fresh : Fresh calls before)
    (run : exec (System.step calls) (.begin calls before) es = some s) : Sound calls before s :=
  Runs.invariant _ (fun _ _ _ sound next => step_sound fresh sound next) (sound_begin calls before) run

end Soundness

section Reading
variable {stored : Stored service} {k : String}

theorem get_ok_iff : (∃ summary, stored.get k = .ok summary) ↔ k ∈ stored.keys := by
  constructor
  · rintro ⟨summary, answered⟩
    by_contra absent
    simp [Stored.get, find_eq_none.mpr absent] at answered
  · intro there
    cases found : stored.find k with
    | some row => exact ⟨service.serialize row, by simp [Stored.get, found]⟩
    | none => exact absurd there (find_eq_none.mp found)

/-- A listing has every record once. -/
theorem listed_once {items : List σ} {ordered : List ρ} (listed : stored.Listed items ordered) :
    (ordered.map service.id).Nodup ∧ ∀ k, k ∈ ordered.map service.id ↔ k ∈ stored.keys := by
  have perm := listed.descending.perm.map service.id
  exact ⟨perm.nodup_iff.mpr stored.ids, fun k => perm.mem_iff⟩

end Reading

end VMachine.Database.Records
