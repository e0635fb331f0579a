import VMachine.Database.Session
import VMachine.Lib.Runs

/-! Two calls of `create_cluster` with one name. Each has a session of its own, in which it
selects the clusters of that name, sends its row and commits it. The name is unique in the
table: a row of a name that is there is refused, and a row of a name that another
transaction has sent waits for its end. -/
namespace VMachine.Orchestration
open OpenStack Database Tables

structure ClusterCreateRequest where
  name : String
  description : Option String := none
  clusterType : String := "compute"
  nodeCount : Nat := 0
  metadata : List (String × String) := []
  nameLength : 1 ≤ name.length ∧ name.length ≤ 255
  descriptionLength : ∀ text ∈ description, text.length ≤ 2000

/- A row of cluster_deployments. -/
structure ClusterDeployment where
  id : String
  name : String
  description : Option String
  clusterType : String
  status : String
  nodeCount : Nat
  extraConfig : List (String × String)
  createdAt : Nat
  deriving Repr, DecidableEq

structure ClusterSummary where
  id : String
  name : String
  description : Option String
  clusterType : String
  status : String
  nodeCount : Nat
  createdAt : Option String
  operationTaskId : Option Nat := none
  deriving Repr, DecidableEq

def ClusterDeployment.fits (b : Backend) (row : ClusterDeployment) : Bool :=
  b.takes 36 row.id && b.takes 255 row.name && b.takes 50 row.clusterType && b.takes 50 row.status &&
    b.takesInt row.nodeCount

abbrev ClusterTable (b : Backend) := Table ClusterDeployment.name (ClusterDeployment.fits b)

/- A call, with the id that is drawn for its row and the time at which the row is sent. -/
structure Call where
  payload : ClusterCreateRequest
  id : String
  now : Nat

/- The row of `create_cluster`. -/
def Call.cluster (call : Call) : ClusterDeployment where
  id := call.id
  name := call.payload.name
  description := call.payload.description
  clusterType := call.payload.clusterType
  status := "active"
  nodeCount := call.payload.nodeCount
  extraConfig := call.payload.metadata
  createdAt := call.now

/- `_serialize`. -/
def serialize (isoformat : Nat → String) (cluster : ClusterDeployment) : ClusterSummary where
  id := cluster.id
  name := cluster.name
  description := cluster.description
  clusterType := cluster.clusterType
  status := cluster.status
  nodeCount := cluster.nodeCount
  createdAt := some (isoformat cluster.createdAt)

def alreadyExists (name : String) : Exc :=
  .appException ("Cluster '" ++ name ++ "' already exists") 409 "cluster_already_exists"

inductive Phase where
  | started
  | absent
  | inserted
  | returned (summary : ClusterSummary)
  | raised (exc : Exc)
  deriving Repr, DecidableEq

def Phase.ended : Phase → Bool
  | .returned _ | .raised _ => true
  | _ => false

inductive Caller where
  | first
  | second
  deriving Repr, DecidableEq

def Caller.other : Caller → Caller
  | .first => .second
  | .second => .first

inductive Statement where
  | select (c : Caller)
  | insert (c : Caller)
  | commit (c : Caller)
  deriving Repr, DecidableEq

structure Creation (b : Backend) where
  table : ClusterTable b
  phase : Caller → Phase

/- What the two callers ask for, and how a time is written. -/
structure Demand where
  call : Caller → Call
  isoformat : Nat → String

section Running
variable {b : Backend} (demand : Demand)

def Creation.move (s : Creation b) (c : Caller) (phase : Phase) : Creation b :=
  { s with phase := fun d => if d = c then phase else s.phase d }

def Creation.step (s : Creation b) : Statement → Option (Creation b)
  | .select c =>
    if s.phase c = .started then
      match scalarOneOrNone (s.table.rows.filter (fun row => decide (row.name = (demand.call c).payload.name))) with
      | .ok (some _) => some (s.move c (.raised (alreadyExists (demand.call c).payload.name)))
      | .ok none => some (s.move c .absent)
      | .error exc => some (s.move c (.raised exc))
    else none
  | .insert c =>
    if s.phase c = .absent then
      -- The row waits for a transaction that has sent one of the same name.
      if s.phase c.other = .inserted ∧ (demand.call c.other).payload.name = (demand.call c).payload.name then none
      else match s.table.insert (demand.call c).cluster with
        | .ok _ => some (s.move c .inserted)
        | .error violation => some (s.move c (.raised (refusal violation)))
    else none
  | .commit c =>
    if s.phase c = .inserted then
      match s.table.insert (demand.call c).cluster with
      | .ok table => some ({ s with table := table }.move c (.returned (serialize demand.isoformat (demand.call c).cluster)))
      | .error violation => some (s.move c (.raised (refusal violation)))
    else none

end Running

def Creation.begin {b : Backend} (table : ClusterTable b) : Creation b := ⟨table, fun _ => .started⟩

def Creation.Finished {b : Backend} (s : Creation b) : Prop := ∀ c, (s.phase c).ended = true

/- One call has succeeded, the other one has been told that the cluster exists, and it is there
once. -/
def Creation.Resolved {b : Backend} (name : String) (s : Creation b) : Prop :=
  ∃ c, (∃ summary, s.phase c = .returned summary) ∧
    (∃ message, s.phase c.other = .raised (.appException message 409 "cluster_already_exists")) ∧
    (s.table.rows.filter (fun row => decide (row.name = name))).length = 1

/- One call looks for the name after the other one has committed it. -/
def Serial (statements : List Statement) : Prop :=
  ∃ c : Caller, [Statement.commit c, Statement.select c.other].Sublist statements

theorem other_other (c : Caller) : c.other.other = c := by cases c <;> rfl

theorem other_ne (c : Caller) : c.other ≠ c := by cases c <;> decide

theorem eq_or_other (c d : Caller) : d = c ∨ d = c.other := by cases c <;> cases d <;> decide

/-- Two elements in order, when one more has come. -/
theorem pair_sublist_concat {α : Type} {x y z : α} {xs : List α} :
    [x, y].Sublist (xs ++ [z]) ↔ [x, y].Sublist xs ∨ (y = z ∧ x ∈ xs) := by
  constructor
  · intro sublist
    obtain ⟨before, after, split, inside, last⟩ := List.sublist_append_iff.mp sublist
    obtain rfl | rfl := List.sublist_singleton.mp last
    · rw [List.append_nil] at split
      rw [split]
      exact .inl inside
    · have halves : [x] ++ [y] = before ++ [z] := split
      obtain ⟨rfl, same⟩ := List.append_inj' halves rfl
      exact .inr ⟨List.singleton_inj.mp same, List.singleton_sublist.mp inside⟩
  · rintro (sublist | ⟨rfl, member⟩)
    · exact sublist.trans (List.sublist_append_left xs [z])
    · exact (List.singleton_sublist.mpr member).append (List.Sublist.refl [y])

section Steps
variable {b : Backend} {demand : Demand} {name : String} {s t : Creation b}

theorem move_self (c : Caller) (phase : Phase) : (s.move c phase).phase c = phase := by simp [Creation.move]

theorem move_other {c d : Caller} (phase : Phase) (ne : d ≠ c) : (s.move c phase).phase d = s.phase d := by
  simp [Creation.move, ne]

/-- What a statement can do, for calls of one name. -/
theorem step_cases (named : ∀ c, (demand.call c).payload.name = name) {e : Statement}
    (next : s.step demand e = some t) :
    (∃ c, e = .select c ∧ s.phase c = .started ∧ name ∈ s.table.keys ∧ t = s.move c (.raised (alreadyExists name))) ∨
    (∃ c, e = .select c ∧ s.phase c = .started ∧ name ∉ s.table.keys ∧ t = s.move c .absent) ∨
    (∃ c, e = .insert c ∧ s.phase c = .absent ∧ s.phase c.other ≠ .inserted ∧ name ∉ s.table.keys ∧
      (demand.call c).cluster.fits b = true ∧ t = s.move c .inserted) ∨
    (∃ c violation, e = .insert c ∧ s.phase c = .absent ∧ t = s.move c (.raised (refusal violation))) ∨
    (∃ c table, e = .commit c ∧ s.phase c = .inserted ∧ s.table.insert (demand.call c).cluster = .ok table ∧
      t = { s with table := table }.move c (.returned (serialize demand.isoformat (demand.call c).cluster))) ∨
    (∃ c violation, e = .commit c ∧ s.phase c = .inserted ∧
      s.table.insert (demand.call c).cluster = .error violation ∧ t = s.move c (.raised (refusal violation))) := by
  cases e with
  | select c =>
    simp only [Creation.step, named] at next
    split at next
    · rename_i start
      have keyed (row other : ClusterDeployment) (one : decide (row.name = name) = true)
          (two : decide (other.name = name) = true) : row.name = other.name :=
        (of_decide_eq_true one).trans (of_decide_eq_true two).symm
      obtain ⟨none, others⟩ | ⟨row, inside, own, found⟩ := scalarOneOrNone_keyed s.table keyed
      · rw [none] at next
        cases next
        refine .inr (.inl ⟨c, rfl, start, ?_, rfl⟩)
        intro taken
        obtain ⟨row, inside, own⟩ := List.mem_map.mp taken
        exact of_decide_eq_false (others row inside) own
      · rw [found] at next
        cases next
        exact .inl ⟨c, rfl, start, List.mem_map.mpr ⟨row, inside, of_decide_eq_true own⟩, rfl⟩
    · contradiction
  | insert c =>
    simp only [Creation.step, named] at next
    split at next
    · rename_i absent
      split at next
      · contradiction
      · rename_i free
        have alone : s.phase c.other ≠ .inserted := fun pending => free ⟨pending, trivial⟩
        split at next
        · rename_i table inserted
          cases next
          obtain ⟨_, fits, fresh⟩ := Table.rows_of_insert inserted
          have key : (demand.call c).cluster.name = name := named c
          rw [key] at fresh
          exact .inr (.inr (.inl ⟨c, rfl, absent, alone, fresh, fits, rfl⟩))
        · rename_i violation _
          cases next
          exact .inr (.inr (.inr (.inl ⟨c, violation, rfl, absent, rfl⟩)))
    · contradiction
  | commit c =>
    simp only [Creation.step] at next
    split at next
    · rename_i pending
      split at next
      · rename_i table committed
        cases next
        exact .inr (.inr (.inr (.inr (.inl ⟨c, table, rfl, pending, committed, rfl⟩))))
      · rename_i violation refused
        cases next
        exact .inr (.inr (.inr (.inr (.inr ⟨c, violation, rfl, pending, refused, rfl⟩))))
    · contradiction

end Steps

/- The call has been told that the cluster exists. -/
def Phase.Refused (phase : Phase) : Prop :=
  ∃ message, phase = .raised (.appException message 409 "cluster_already_exists")

/- What can be read off the statements so far. -/
structure Recorded {b : Backend} (demand : Demand) (name : String) (table : ClusterTable b)
    (statements : List Statement) (s : Creation b) : Prop where
  keys : name ∈ s.table.keys ↔ name ∈ table.keys ∨ ∃ c, Statement.commit c ∈ statements
  started : ∀ c, s.phase c = .started ↔ Statement.select c ∉ statements
  returned : ∀ c, (∃ summary, s.phase c = .returned summary) ↔ Statement.commit c ∈ statements
  refused : ∀ c, (s.phase c).Refused ↔ Statement.select c ∈ statements ∧
    (name ∈ table.keys ∨ [Statement.commit c.other, Statement.select c].Sublist statements)
  pending : ∀ c, s.phase c = .inserted → s.phase c.other ≠ .inserted ∧ name ∉ s.table.keys ∧
    (demand.call c).cluster.fits b = true
  fresh : ∀ c, Statement.commit c ∈ statements → name ∉ table.keys

section Recording
variable {b : Backend} {demand : Demand} {name : String} {table : ClusterTable b} {statements : List Statement}
  {s : Creation b} {c : Caller}

theorem recorded_begin : Recorded demand name table [] (.begin table) where
  keys := by simp [Creation.begin]
  started c := by simp [Creation.begin]
  returned c := by simp [Creation.begin]
  refused c := by simp [Creation.begin, Phase.Refused]
  pending c waits := by simp [Creation.begin] at waits
  fresh c committed := by simp at committed

/- A phase that a call is in after its SELECT and before its COMMIT, or at its end without one. -/
structure Phase.Uncommitted (phase : Phase) : Prop where
  begun : phase ≠ .started
  unreturned : ¬ ∃ summary, phase = .returned summary

theorem Recorded.select (recorded : Recorded demand name table statements s) (start : s.phase c = .started)
    {phase : Phase} (after : phase.Uncommitted) (unsent : phase ≠ .inserted)
    (told : phase.Refused ↔ name ∈ s.table.keys) :
    Recorded demand name table (statements ++ [.select c]) (s.move c phase) := by
  have unselected : Statement.select c ∉ statements := (recorded.started c).mp start
  have uncommitted : Statement.commit c ∉ statements := by
    intro committed
    obtain ⟨summary, returned⟩ := (recorded.returned c).mpr committed
    rw [start] at returned
    contradiction
  constructor
  · simpa [Creation.move] using recorded.keys
  · intro d
    by_cases own : d = c
    · subst own
      simp [move_self, after.begun]
    · simp [move_other _ own, own, recorded.started]
  · intro d
    by_cases own : d = c
    · subst own
      simpa [move_self, uncommitted] using after.unreturned
    · simpa [move_other _ own] using recorded.returned d
  · intro d
    by_cases own : d = c
    · subst own
      have unordered : ¬ [Statement.commit d.other, Statement.select d].Sublist statements :=
        fun sublist => unselected (sublist.subset (by simp))
      have committer : (∃ c, Statement.commit c ∈ statements) ↔ Statement.commit d.other ∈ statements := by
        constructor
        · rintro ⟨c, committed⟩
          obtain rfl | rfl := eq_or_other d c
          · exact absurd committed uncommitted
          · exact committed
        · exact fun committed => ⟨_, committed⟩
      rw [move_self, told, recorded.keys, committer, pair_sublist_concat]
      simp [unordered]
    · rw [move_other _ own, recorded.refused d, pair_sublist_concat]
      simp [own]
  · intro d waits
    by_cases own : d = c
    · subst own
      rw [move_self] at waits
      exact absurd waits unsent
    · rw [move_other _ own] at waits
      obtain ⟨_, free, fits⟩ := recorded.pending d waits
      obtain rfl | rfl := eq_or_other d c
      · exact absurd rfl own
      · exact ⟨by rw [move_self]; exact unsent, free, fits⟩
  · intro d committed
    refine recorded.fresh d ?_
    simpa using committed

theorem Recorded.insert (recorded : Recorded demand name table statements s) (absent : s.phase c = .absent)
    {phase : Phase} (after : phase.Uncommitted) (untold : ¬ phase.Refused)
    (sent : phase = .inserted → s.phase c.other ≠ .inserted ∧ name ∉ s.table.keys ∧
      (demand.call c).cluster.fits b = true) :
    Recorded demand name table (statements ++ [.insert c]) (s.move c phase) := by
  constructor
  · simpa [Creation.move] using recorded.keys
  · intro d
    by_cases own : d = c
    · subst own
      have began := recorded.started d
      rw [absent] at began
      simpa [move_self, after.begun] using began
    · simpa [move_other _ own] using recorded.started d
  · intro d
    by_cases own : d = c
    · subst own
      have uncommitted := recorded.returned d
      rw [absent] at uncommitted
      simpa [move_self, after.unreturned] using uncommitted
    · simpa [move_other _ own] using recorded.returned d
  · intro d
    rw [pair_sublist_concat]
    by_cases own : d = c
    · subst own
      have unrefused : ¬ (s.phase d).Refused := by
        rw [absent]
        rintro ⟨_, refused⟩
        contradiction
      rw [recorded.refused d] at unrefused
      rw [move_self]
      refine iff_of_false untold ?_
      simpa using unrefused
    · simpa [move_other _ own] using recorded.refused d
  · intro d waits
    by_cases own : d = c
    · subst own
      rw [move_self] at waits
      rw [move_other _ (other_ne d)]
      exact sent waits
    · rw [move_other _ own] at waits
      obtain ⟨alone, free, fits⟩ := recorded.pending d waits
      obtain rfl | rfl := eq_or_other d c
      · exact absurd rfl own
      · refine ⟨?_, free, fits⟩
        rw [move_self]
        intro both
        have waiting := (sent both).1
        rw [other_other] at waiting
        exact waiting waits
  · intro d committed
    refine recorded.fresh d ?_
    simpa using committed

theorem Recorded.commit (recorded : Recorded demand name table statements s)
    (named : (demand.call c).payload.name = name) (waits : s.phase c = .inserted) {after : ClusterTable b}
    (committed : s.table.insert (demand.call c).cluster = .ok after) (summary : ClusterSummary) :
    Recorded demand name table (statements ++ [.commit c]) ({ s with table := after }.move c (.returned summary)) := by
  obtain ⟨alone, free, fits⟩ := recorded.pending c waits
  have there : name ∈ after.keys := by
    rw [Table.keys, (Table.rows_of_insert committed).1, List.map_append, ← named]
    exact List.mem_append_right _ (List.mem_singleton_self _)
  constructor
  · refine iff_of_true there (.inr ⟨c, ?_⟩)
    exact List.mem_append_right _ (List.mem_singleton_self _)
  · intro d
    by_cases own : d = c
    · subst own
      have began := recorded.started d
      rw [waits] at began
      simpa [move_self] using began
    · simpa [move_other _ own] using recorded.started d
  · intro d
    by_cases own : d = c
    · subst own
      simp [move_self]
    · simpa [move_other _ own, own] using recorded.returned d
  · intro d
    rw [pair_sublist_concat]
    by_cases own : d = c
    · subst own
      have unrefused : ¬ (s.phase d).Refused := by
        rw [waits]
        rintro ⟨_, refused⟩
        contradiction
      rw [recorded.refused d] at unrefused
      rw [move_self]
      refine iff_of_false ?_ ?_
      · rintro ⟨_, refused⟩
        contradiction
      · simpa using unrefused
    · simpa [move_other _ own] using recorded.refused d
  · intro d pending
    obtain rfl | rfl := eq_or_other c d
    · rw [move_self] at pending
      contradiction
    · rw [move_other _ (other_ne c)] at pending
      exact absurd pending alone
  · intro d _ taken
    exact free (recorded.keys.mpr (.inl taken))

/-- The statements say how far the calls have come. -/
theorem recorded_step (named : ∀ c, (demand.call c).payload.name = name) (e : Statement) (t : Creation b)
    (recorded : Recorded demand name table statements s) (next : s.step demand e = some t) :
    Recorded demand name table (statements ++ [e]) t := by
  obtain ⟨c, rfl, start, taken, rfl⟩ | ⟨c, rfl, start, free, rfl⟩ | ⟨c, rfl, absent, alone, free, fits, rfl⟩ |
    ⟨c, violation, rfl, absent, rfl⟩ | ⟨c, after, rfl, waits, committed, rfl⟩ |
    ⟨c, violation, rfl, waits, refused, rfl⟩ := step_cases named next
  · exact recorded.select start ⟨by simp, by simp⟩ (by simp) (iff_of_true ⟨_, rfl⟩ taken)
  · exact recorded.select start ⟨by simp, by simp⟩ (by simp) (iff_of_false (by simp [Phase.Refused]) free)
  · exact recorded.insert absent ⟨by simp, by simp⟩ (by simp [Phase.Refused]) (fun _ => ⟨alone, free, fits⟩)
  · refine recorded.insert absent ⟨by simp, by simp⟩ ?_ (by simp)
    cases violation <;> simp [Phase.Refused, refusal]
  · exact recorded.commit (named c) waits committed _
  · obtain ⟨_, free, fits⟩ := recorded.pending c waits
    obtain unfit | taken := Table.insert_refused refused
    · exact absurd (fits.symm.trans unfit) (by simp)
    · have key : (demand.call c).cluster.name = name := named c
      rw [key] at taken
      exact absurd taken free

/-- The name is there once if it is there. -/
theorem one_of_mem (there : name ∈ s.table.keys) :
    (s.table.rows.filter (fun row => decide (row.name = name))).length = 1 := by
  obtain ⟨row, inside, own⟩ := List.mem_map.mp there
  rw [Table.filter_eq_singleton inside (decide_eq_true own)
    (fun other selected => (of_decide_eq_true selected).trans own.symm)]
  rfl

theorem Recorded.resolved_iff (recorded : Recorded demand name table statements s) :
    s.Resolved name ↔ name ∉ table.keys ∧ Serial statements := by
  constructor
  · rintro ⟨c, returned, refused, _⟩
    have fresh := recorded.fresh c ((recorded.returned c).mp returned)
    obtain ⟨_, taken | ordered⟩ := (recorded.refused c.other).mp refused
    · exact absurd taken fresh
    · rw [other_other] at ordered
      exact ⟨fresh, c, ordered⟩
  · rintro ⟨_, c, ordered⟩
    have committed : Statement.commit c ∈ statements := ordered.subset (by simp)
    have selected : Statement.select c.other ∈ statements := ordered.subset (by simp)
    refine ⟨c, (recorded.returned c).mpr committed, ?_, one_of_mem (recorded.keys.mpr (.inr ⟨c, committed⟩))⟩
    refine (recorded.refused c.other).mpr ⟨selected, .inr ?_⟩
    rw [other_other]
    exact ordered

theorem run_recorded (named : ∀ c, (demand.call c).payload.name = name)
    (run : Runs.exec (Creation.step demand) (.begin table) statements = some s) :
    Recorded demand name table statements s :=
  Runs.history (Creation.step demand) (I := Recorded demand name table)
    (fun _ _ e t recorded next => recorded_step named e t recorded next) recorded_begin run

end Recording

/-- Two calls with one name resolve cleanly exactly when the name is new and one of them looks
for it after the other one has committed it. -/
theorem creation_resolved_iff {b : Backend} (demand : Demand) (name : String) (table : ClusterTable b)
    (statements : List Statement) (s : Creation b) (named : ∀ c, (demand.call c).payload.name = name)
    (run : Runs.exec (Creation.step demand) (.begin table) statements = some s) :
    s.Resolved name ↔ name ∉ table.keys ∧ Serial statements := by
  have recorded := run_recorded named run
  exact recorded.resolved_iff

def prodRequest : ClusterCreateRequest where
  name := "prod"
  nameLength := by decide
  descriptionLength := by simp

def prodDemand : Demand where
  call
    | .first => ⟨prodRequest, "c-1", 0⟩
    | .second => ⟨prodRequest, "c-2", 1⟩
  isoformat := toString

theorem prod_named : ∀ c, (prodDemand.call c).payload.name = "prod" := by
  intro c
  cases c <;> rfl

def noClusters : ClusterTable postgresql := ⟨[], List.nodup_nil, fun _ member => (List.not_mem_nil member).elim⟩

def oneAfterTheOther : List Statement := [.select .second, .insert .second, .commit .second, .select .first]

theorem second_first_resolved : ∃ s, Runs.exec (Creation.step prodDemand) (.begin noClusters) oneAfterTheOther = some s ∧
    s.Finished ∧ s.Resolved "prod" := by
  have ends : (Runs.exec (Creation.step prodDemand) (.begin noClusters) oneAfterTheOther).any
      (fun s => (s.phase .first).ended && (s.phase .second).ended) = true := by decide +kernel
  obtain ⟨s, run, ended⟩ := (Option.any_eq_true _ _).mp ends
  obtain ⟨one, two⟩ := Bool.and_eq_true_iff.mp ended
  have finished : s.Finished := by
    intro c
    cases c
    · exact one
    · exact two
  have serial : Serial oneAfterTheOther := ⟨.second, by decide⟩
  exact ⟨s, run, finished, (creation_resolved_iff prodDemand "prod" noClusters _ s prod_named run).mpr
    ⟨by decide, serial⟩⟩

/- Both calls look for the name before one of them has committed it. -/
def bothAtOnce : List Statement :=
  [.select .first, .select .second, .insert .first, .commit .first, .insert .second]

theorem second_call_breaks : ¬ ∀ (b : Backend) (demand : Demand) (name : String) (table : ClusterTable b)
    (statements : List Statement) (s : Creation b), (∀ c, (demand.call c).payload.name = name) →
    name ∉ table.keys → Runs.exec (Creation.step demand) (.begin table) statements = some s → s.Finished →
    s.Resolved name := by
  intro claim
  have ends : (Runs.exec (Creation.step prodDemand) (.begin noClusters) bothAtOnce).any
      (fun s => (s.phase .first).ended && decide (s.phase .second = .raised (refusal .unique))) = true := by
    decide +kernel
  obtain ⟨s, run, ended⟩ := (Option.any_eq_true _ _).mp ends
  obtain ⟨one, two⟩ := Bool.and_eq_true_iff.mp ended
  have broken := of_decide_eq_true two
  have finished : s.Finished := by
    intro c
    cases c
    · exact one
    · rw [broken]
      rfl
  obtain ⟨c, ⟨summary, returned⟩, ⟨message, refused⟩, _⟩ :=
    claim postgresql prodDemand "prod" noClusters bothAtOnce s prod_named (by decide) run finished
  cases c with
  | first => exact absurd (broken.symm.trans refused) (by simp [refusal])
  | second => exact absurd (broken.symm.trans returned) (by simp)

end VMachine.Orchestration
