import Mathlib.Data.Rat.Floor
import VMachine.Lib.Deadline
import VMachine.OpenStack.Polling

/-! The waits for a status, against any answers and any delays. A wait ends with the first
poll that decides something, or at the deadline, after at most as many polls as poll
intervals fit into the time allowed, rounded up. The connection may be missing when the wait
begins, so a poll is followed as the program makes it, and not by what Nova answers. -/
namespace VMachine.OpenStack
open Py Effects

section Polls
variable (env : Env) (serverId : String)

/- How a lookup of the server that is made now ends. -/
def World.polled (w : World) : Except Exc Obj :=
  match getVm env serverId w with
  | .ok detail _ => .ok detail
  | .error exc _ => .error exc

/- The world at which a wait makes its poll number `k`, counted from 0. -/
def World.pollAt (w : World) : Nat → World
  | 0 => w
  | k + 1 => ((endOf (getVm env serverId w)).slept env serverPollInterval).pollAt k

/- What a wait makes of a poll: it ends, with a return or a raise, or it goes on. -/
def decision (wanted : List String) (failed : String → Exc) : Except Exc Obj → Option (Except Exc Obj)
  | .error exc => some (.error exc)
  | .ok detail =>
    if statusOf detail ∈ wanted then some (.ok detail)
    else if statusOf detail ∈ ["ERROR", "UNKNOWN"] then some (.error (failed (statusOf detail)))
    else none

def settle (result : Except Exc Obj) (t : World) : EStateM.Result Exc World Obj :=
  match result with
  | .ok detail => .ok detail t
  | .error exc => .error exc t

/- Poll number `k` is made: it is early enough, and so were those before, which have all
found a neutral status. -/
def Polls (wanted : List String) (deadline : Nat) (w : World) (k : Nat) : Prop :=
  (∀ j < k, (w.pollAt env serverId j).now < deadline ∧
    ∃ detail, (w.pollAt env serverId j).polled env serverId = .ok detail ∧ Neutral wanted (statusOf detail)) ∧
  (w.pollAt env serverId k).now < deadline

/- The number of poll intervals in the time allowed, rounded up. -/
def pollLimit (timeout : Nat) : Nat := ⌈(timeout : ℚ) / (serverPollInterval : ℚ)⌉₊

/- What a wait that begins in `w` ends with, poll by poll. -/
structure DecidedByFirst (wanted : List String) (code : String) (timeout : Nat) (w : World)
    (result : EStateM.Result Exc World Obj) : Prop where
  polls : ∀ k, Polls env serverId wanted (w.now + timeout) w k → k < pollLimit timeout
  requests : ∃ n ≤ pollLimit timeout, (endOf result).log = w.log ++ List.replicate n (lookupRequest serverId)
  reached : ∀ k detail, Polls env serverId wanted (w.now + timeout) w k →
    (w.pollAt env serverId k).polled env serverId = .ok detail → statusOf detail ∈ wanted →
    ∃ t, result = .ok detail t
  failed : ∀ k detail, Polls env serverId wanted (w.now + timeout) w k →
    (w.pollAt env serverId k).polled env serverId = .ok detail → statusOf detail ∈ ["ERROR", "UNKNOWN"] →
    ∃ message t, result = .error (.appException message 500 code) t
  raised : ∀ k exc, Polls env serverId wanted (w.now + timeout) w k →
    (w.pollAt env serverId k).polled env serverId = .error exc → ∃ t, result = .error exc t
  late : (∀ k, Polls env serverId wanted (w.now + timeout) w k →
      ∃ detail, (w.pollAt env serverId k).polled env serverId = .ok detail ∧ Neutral wanted (statusOf detail)) →
    ∃ message t, result = .error (.timeoutError message) t

end Polls

section Clock
variable {env : Env} {serverId : String} {w : World}

theorem getVm_later : w.now ≤ (endOf (getVm env serverId w)).now := by
  have frame := getVm_frames (later_inert env).toSilent (fun _ _ => trivial) serverId
  cases run : getVm env serverId w with
  | ok detail t => exact frame.of_ok run
  | error exc t => exact frame.of_error run

theorem pollAt_succ (k : Nat) :
    w.pollAt env serverId (k + 1) =
      (endOf (getVm env serverId (w.pollAt env serverId k))).slept env serverPollInterval := by
  induction k generalizing w with
  | zero => rfl
  | succ k ih => exact ih

/- The readings of the clock at the polls. -/
def pollClock (env : Env) (serverId : String) (w : World) : Deadline.Clock (serverPollInterval : ℚ) where
  read k := ((w.pollAt env serverId k).now : ℚ)
  advances k := by
    have looked := @getVm_later env serverId (w.pollAt env serverId k)
    have passed : (w.pollAt env serverId k).now + serverPollInterval ≤ (w.pollAt env serverId (k + 1)).now := by
      rw [pollAt_succ]
      change _ ≤ (endOf (getVm env serverId (w.pollAt env serverId k))).now + (serverPollInterval + _)
      omega
    exact_mod_cast passed

theorem interval_pos : (0 : ℚ) < (serverPollInterval : ℚ) := by
  have positive : 0 < serverPollInterval := by decide
  exact_mod_cast positive

theorem early_within {timeout k : Nat} (early : (w.pollAt env serverId k).now < w.now + timeout) :
    k < pollLimit timeout := by
  apply (pollClock env serverId w).round_lt interval_pos
  change ((w.pollAt env serverId k).now : ℚ) < (w.now : ℚ) + (timeout : ℚ)
  exact_mod_cast early

/-- The bound that the loop carries leaves room for every poll that is made. -/
theorem pollLimit_le_budget (timeout : Nat) : pollLimit timeout ≤ pollBudget timeout := by
  have enough := pollBudget_enough timeout
  rw [pollLimit, Nat.ceil_le, div_le_iff₀ interval_pos]
  exact_mod_cast enough

theorem some_late (timeout : Nat) : ∃ n, ¬ (w.pollAt env serverId n).now < w.now + timeout := by
  refine ⟨pollLimit timeout, ?_⟩
  intro early
  exact absurd (early_within early) (Nat.lt_irrefl _)

end Clock

section Loop
variable {env : Env} {serverId : String} {wanted : List String} {failed : String → Exc} {late : Exc}
  {deadline timeout n : Nat} {w : World} {result : Except Exc Obj}

theorem decision_none_iff {found : Except Exc Obj} :
    decision wanted failed found = none ↔ ∃ detail, found = .ok detail ∧ Neutral wanted (statusOf detail) := by
  cases found with
  | error exc => simp [decision]
  | ok detail =>
    have alone : (∃ other, (.ok detail : Except Exc Obj) = .ok other ∧ Neutral wanted (statusOf other)) ↔
        Neutral wanted (statusOf detail) := by simp
    rw [alone, decision]
    by_cases good : statusOf detail ∈ wanted
    · rw [if_pos good]
      exact iff_of_false (by simp) (fun neutral => neutral.1 good)
    · rw [if_neg good]
      by_cases bad : statusOf detail ∈ ["ERROR", "UNKNOWN"]
      · rw [if_pos bad]
        exact iff_of_false (by simp) (fun neutral => neutral.2 bad)
      · rw [if_neg bad]
        exact iff_of_true rfl ⟨good, bad⟩

/- Whether poll number `k` would be in time, and what it would decide. -/
def inTime (env : Env) (serverId : String) (deadline : Nat) (w : World) (k : Nat) : Prop :=
  (w.pollAt env serverId k).now < deadline

def verdict (env : Env) (serverId : String) (wanted : List String) (failed : String → Exc) (w : World) (k : Nat) :
    Option (Except Exc Obj) :=
  decision wanted failed ((w.pollAt env serverId k).polled env serverId)

theorem polls_iff (failed : String → Exc) :
    Polls env serverId wanted deadline w n ↔
      Deadline.Begun (inTime env serverId deadline w) (verdict env serverId wanted failed w) n := by
  simp only [Polls, Deadline.Begun, Deadline.Undecided, inTime, verdict, decision_none_iff]

/-- One round of the loop. -/
theorem waitLoop_poll (polls : Nat) (early : w.now < deadline) :
    waitLoop env wanted failed late serverId deadline (polls + 1) w =
      match decision wanted failed (w.polled env serverId) with
      | some result => settle result (endOf (getVm env serverId w))
      | none => waitLoop env wanted failed late serverId deadline polls (w.pollAt env serverId 1) := by
  change (if w.now < deadline then _ else throw late : M Obj) w = _
  rw [if_pos early]
  simp only [bind, EStateM.bind, World.polled, World.pollAt]
  cases run : getVm env serverId w with
  | error exc t => rfl
  | ok detail t =>
    simp only [decision, endOf]
    by_cases good : statusOf detail ∈ wanted
    · rw [if_pos good, if_pos good]
      rfl
    · rw [if_neg good, if_neg good]
      by_cases bad : statusOf detail ∈ ["ERROR", "UNKNOWN"]
      · rw [if_pos bad, if_pos bad]
        rfl
      · rw [if_neg bad, if_neg bad]
        rfl

/-- Rounds that decide nothing lead to the next one. -/
theorem waitLoop_undecided (n polls : Nat) (w : World)
    (undecided : Deadline.Undecided (inTime env serverId deadline w) (verdict env serverId wanted failed w) n) :
    waitLoop env wanted failed late serverId deadline (n + polls) w =
      waitLoop env wanted failed late serverId deadline polls (w.pollAt env serverId n) := by
  induction n generalizing w with
  | zero => rw [Nat.zero_add]; rfl
  | succ n ih =>
    have first := undecided 0 (Nat.succ_pos n)
    have early : w.now < deadline := first.1
    have neutral : decision wanted failed (w.polled env serverId) = none := first.2
    rw [Nat.succ_add, waitLoop_poll _ early, neutral]
    apply ih
    intro k fewer
    exact undecided (k + 1) (Nat.succ_lt_succ fewer)

theorem begun_within (begun : Deadline.Begun (inTime env serverId (w.now + timeout) w)
    (verdict env serverId wanted failed w) n) : n < pollLimit timeout :=
  early_within begun.2

theorem undecided_within (undecided : Deadline.Undecided (inTime env serverId (w.now + timeout) w)
    (verdict env serverId wanted failed w) n) : n ≤ pollLimit timeout := by
  cases n with
  | zero => exact Nat.zero_le _
  | succ n => exact early_within (undecided n (Nat.lt_succ_self n)).1

/-- The first round that decides something ends the wait. -/
theorem wait_decided (begun : Deadline.Begun (inTime env serverId (w.now + timeout) w)
      (verdict env serverId wanted failed w) n)
    (decided : verdict env serverId wanted failed w n = some result) :
    waitLoop env wanted failed late serverId (w.now + timeout) (pollBudget timeout) w =
      settle result (endOf (getVm env serverId (w.pollAt env serverId n))) := by
  have room := Nat.lt_of_lt_of_le (begun_within begun) (pollLimit_le_budget timeout)
  obtain ⟨spare, budget⟩ := Nat.exists_eq_add_of_lt room
  rw [budget, Nat.add_assoc, waitLoop_undecided n _ w begun.1, waitLoop_poll _ begun.2]
  rw [verdict] at decided
  rw [decided]

theorem wait_late (undecided : Deadline.Undecided (inTime env serverId (w.now + timeout) w)
      (verdict env serverId wanted failed w) n)
    (past : ¬ inTime env serverId (w.now + timeout) w n) :
    waitLoop env wanted failed late serverId (w.now + timeout) (pollBudget timeout) w =
      .error late (w.pollAt env serverId n) := by
  have room := Nat.le_trans (undecided_within undecided) (pollLimit_le_budget timeout)
  obtain ⟨spare, budget⟩ := Nat.exists_eq_add_of_le room
  rw [budget, waitLoop_undecided n _ w undecided]
  exact waitLoop_over env wanted failed late serverId _ _ (Nat.le_of_not_lt past)

end Loop

section Connected
variable {env : Env} {serverId : String} {wanted : List String} {failed : String → Exc} {late : Exc}
  {timeout k : Nat} {w : World} {result : Except Exc Obj} (connected : w.connected = true)
include connected

/-- With a connection at hand, a poll ends with what Nova answers. -/
theorem getVm_answered :
    getVm env serverId w = settle (w.answer env serverId).vm (w.lookedUp env serverId) := by
  cases vm : (w.answer env serverId).vm with
  | ok detail =>
    apply ok_of_wp
    rw [wp_getVm_connected connected, vm]
    exact ⟨rfl, rfl⟩
  | error exc =>
    apply error_of_wp
    rw [wp_getVm_connected connected, vm]
    exact ⟨rfl, rfl⟩

theorem endOf_getVm : endOf (getVm env serverId w) = w.lookedUp env serverId := by
  rw [getVm_answered connected]
  cases (w.answer env serverId).vm <;> rfl

theorem polled_answer : w.polled env serverId = (w.answer env serverId).vm := by
  rw [World.polled, getVm_answered connected]
  cases (w.answer env serverId).vm <;> rfl

theorem pollAt_eq_atPoll (k : Nat) : w.pollAt env serverId k = w.atPoll env serverId k := by
  induction k generalizing w with
  | zero => rfl
  | succ k ih =>
    rw [World.pollAt, World.atPoll, endOf_getVm connected]
    exact ih connected

/-- A wait ends at the first answer that decides something, if it is asked for in time. -/
theorem wait_answered (early : (w.atPoll env serverId k).now < w.now + timeout)
    (neutral : ∀ j < k, ∃ detail, ((w.atPoll env serverId j).answer env serverId).vm = .ok detail ∧
      Neutral wanted (statusOf detail))
    (decided : decision wanted failed ((w.atPoll env serverId k).answer env serverId).vm = some result) :
    waitLoop env wanted failed late serverId (w.now + timeout) (pollBudget timeout) w =
      settle result ((w.atPoll env serverId k).lookedUp env serverId) := by
  have there (j : Nat) : (w.atPoll env serverId j).connected = true := by
    rw [atPoll_connected]
    exact connected
  have verdicts (j : Nat) : verdict env serverId wanted failed w j =
      decision wanted failed ((w.atPoll env serverId j).answer env serverId).vm := by
    rw [verdict, pollAt_eq_atPoll connected, polled_answer (there j)]
  have undecided : Deadline.Undecided (inTime env serverId (w.now + timeout) w)
      (verdict env serverId wanted failed w) k := by
    intro j fewer
    refine ⟨?_, (verdicts j).trans (decision_none_iff.mpr (neutral j fewer))⟩
    rw [inTime, pollAt_eq_atPoll connected]
    exact Nat.lt_of_le_of_lt (atPoll_mono env serverId w (Nat.le_of_lt fewer)) early
  have begun : inTime env serverId (w.now + timeout) w k := by
    rw [inTime, pollAt_eq_atPoll connected]
    exact early
  rw [wait_decided ⟨undecided, begun⟩ ((verdicts k).trans decided), pollAt_eq_atPoll connected, endOf_getVm (there k)]

end Connected

section Requests
variable {env : Env} {serverId : String} {w : World}

/-- A poll sends one request, or none if there is no connection. -/
theorem getVm_log : ∃ n ≤ 1, (endOf (getVm env serverId w)).log =
    w.log ++ List.replicate n (lookupRequest serverId) := by
  have ending : wp (getVm env serverId) w
      (fun _ t => ∃ n ≤ 1, t.log = w.log ++ List.replicate n (lookupRequest serverId))
      (fun _ t => ∃ n ≤ 1, t.log = w.log ++ List.replicate n (lookupRequest serverId)) := by
    cases online : connects env w with
    | false =>
      rw [getVm, wp_bind, novaCall, wp_bind]
      refine wp_mono create_spec ?_ ?_
      · rintro _ _ ⟨sent, _⟩
        exact absurd (sent.symm.trans online) (by decide)
      · rintro _ t ⟨_, same, _⟩
        exact ⟨0, Nat.zero_le 1, by simp [same]⟩
    | true =>
      have sent : ∃ n ≤ 1, (w.online.lookedUp env serverId).log =
          w.log ++ List.replicate n (lookupRequest serverId) := ⟨1, Nat.le_refl 1, rfl⟩
      rw [wp_getVm online]
      cases (w.online.answer env serverId).vm with
      | ok detail => exact sent
      | error exc => exact sent
  cases run : getVm env serverId w with
  | ok detail t => exact wp_of_ok ending run
  | error exc t => exact wp_of_error ending run

theorem pollAt_log (k : Nat) : ∃ n ≤ k, (w.pollAt env serverId k).log =
    w.log ++ List.replicate n (lookupRequest serverId) := by
  induction k with
  | zero => exact ⟨0, Nat.le_refl 0, by simp [World.pollAt]⟩
  | succ k ih =>
    obtain ⟨n, fewer, log⟩ := ih
    obtain ⟨m, once, grown⟩ := @getVm_log env serverId (w.pollAt env serverId k)
    refine ⟨n + m, Nat.add_le_add fewer once, ?_⟩
    rw [pollAt_succ]
    change (endOf (getVm env serverId (w.pollAt env serverId k))).log = _
    rw [grown, log, List.append_assoc, List.replicate_append_replicate]

end Requests

section Waits
variable {env : Env} {serverId : String} {wanted : List String} {failed : String → Exc} {late : Exc} {code : String}
  {timeout : Nat} {w : World}

/-- However the wait ends, each of its requests is one of its polls. -/
theorem wait_requests : ∃ n ≤ pollLimit timeout,
    (endOf (waitLoop env wanted failed late serverId (w.now + timeout) (pollBudget timeout) w)).log =
      w.log ++ List.replicate n (lookupRequest serverId) := by
  obtain ⟨n, result, begun, decided⟩ | ⟨n, undecided, past⟩ :=
    @Deadline.decided_or_late _ (inTime env serverId (w.now + timeout) w) (verdict env serverId wanted failed w)
      (some_late timeout)
  · have within := begun_within begun
    obtain ⟨m, fewer, log⟩ := @pollAt_log env serverId w n
    obtain ⟨l, once, grown⟩ := @getVm_log env serverId (w.pollAt env serverId n)
    refine ⟨m + l, by omega, ?_⟩
    rw [wait_decided begun decided]
    have ends : (endOf (settle result (endOf (getVm env serverId (w.pollAt env serverId n))))) =
        endOf (getVm env serverId (w.pollAt env serverId n)) := by
      cases result <;> rfl
    rw [ends, grown, log, List.append_assoc, List.replicate_append_replicate]
  · have within := undecided_within undecided
    obtain ⟨m, fewer, log⟩ := @pollAt_log env serverId w n
    rw [wait_late undecided past]
    exact ⟨m, Nat.le_trans fewer within, log⟩

theorem loop_decided_by_first (disjoint : ∀ status ∈ wanted, status ∉ ["ERROR", "UNKNOWN"])
    (coded : ∀ status, ∃ message, failed status = .appException message 500 code)
    (timed : ∃ message, late = .timeoutError message) :
    DecidedByFirst env serverId wanted code timeout w
      (waitLoop env wanted failed late serverId (w.now + timeout) (pollBudget timeout) w) where
  polls k made := begun_within ((polls_iff failed).mp made)
  requests := wait_requests
  reached k detail made found good := by
    have decided : verdict env serverId wanted failed w k = some (.ok detail) := by
      rw [verdict, found, decision, if_pos good]
    rw [wait_decided ((polls_iff failed).mp made) decided]
    exact ⟨_, rfl⟩
  failed k detail made found bad := by
    have unwanted : statusOf detail ∉ wanted := fun good => disjoint _ good bad
    have decided : verdict env serverId wanted failed w k = some (.error (failed (statusOf detail))) := by
      rw [verdict, found, decision, if_neg unwanted, if_pos bad]
    obtain ⟨message, same⟩ := coded (statusOf detail)
    rw [wait_decided ((polls_iff failed).mp made) decided, same]
    exact ⟨message, _, rfl⟩
  raised k exc made found := by
    have decided : verdict env serverId wanted failed w k = some (.error exc) := by
      rw [verdict, found, decision]
    rw [wait_decided ((polls_iff failed).mp made) decided]
    exact ⟨_, rfl⟩
  late neutral := by
    obtain ⟨n, result, begun, decided⟩ | ⟨n, undecided, past⟩ :=
      @Deadline.decided_or_late _ (inTime env serverId (w.now + timeout) w) (verdict env serverId wanted failed w)
        (some_late timeout)
    · have nothing : verdict env serverId wanted failed w n = none :=
        decision_none_iff.mpr (neutral n ((polls_iff failed).mpr begun))
      exact absurd (decided.symm.trans nothing) (by simp)
    · obtain ⟨message, same⟩ := timed
      rw [wait_late undecided past, same]
      exact ⟨message, _, rfl⟩

theorem waitForActive_decided :
    DecidedByFirst env serverId ["ACTIVE"] "vm_provisioning_failed" timeout w
      (waitForActive env serverId timeout w) :=
  loop_decided_by_first (by decide) (fun _ => ⟨_, rfl⟩) ⟨_, rfl⟩

theorem waitForStopped_decided :
    DecidedByFirst env serverId ["SHUTOFF", "STOPPED"] "vm_stop_failed" timeout w
      (waitForStopped env serverId timeout w) :=
  loop_decided_by_first (by decide) (fun _ => ⟨_, rfl⟩) ⟨_, rfl⟩

end Waits

/-- Both waits end in time, with what the first poll that is not neutral says. -/
theorem waits_decided_by_first (env : Env) (serverId : String) (timeout : Nat) (w : World) :
    DecidedByFirst env serverId ["ACTIVE"] "vm_provisioning_failed" timeout w
        (waitForActive env serverId timeout w) ∧
      DecidedByFirst env serverId ["SHUTOFF", "STOPPED"] "vm_stop_failed" timeout w
        (waitForStopped env serverId timeout w) :=
  ⟨waitForActive_decided, waitForStopped_decided⟩

/- A cloud whose servers are all in error. -/
def erringCloud : Env where
  ready := true
  listLimit := 1000
  connect _ := none
  sdk _ _ := { result := .ok ⟨.dict [("id", .str "vm-1"), ("name", .str "web"), ("status", .str "ERROR")], none⟩ }
  wall _ := 0
  lag _ := 0
  redisUp _ := true
  databaseUp _ := true
  uuid _ := "uuid"

/-- The wait for a stop has an error code of its own. -/
theorem stop_failure_has_own_code :
    ¬ ∀ env serverId timeout w,
      DecidedByFirst env serverId ["ACTIVE"] "vm_provisioning_failed" timeout w
          (waitForActive env serverId timeout w) ∧
        DecidedByFirst env serverId ["SHUTOFF", "STOPPED"] "vm_provisioning_failed" timeout w
          (waitForStopped env serverId timeout w) := by
  intro claim
  have first : Polls erringCloud "vm-1" ["SHUTOFF", "STOPPED"] lifecycleTimeout .initial 0 := by
    refine ⟨by simp, ?_⟩
    decide
  have erring : ∃ detail, World.initial.polled erringCloud "vm-1" = .ok detail ∧
      statusOf detail ∈ ["ERROR", "UNKNOWN"] := ⟨_, rfl, by decide⟩
  obtain ⟨detail, found, bad⟩ := erring
  have own := @waitForStopped_decided erringCloud "vm-1" lifecycleTimeout .initial
  obtain ⟨message, t, raised⟩ := own.failed 0 detail first found bad
  obtain ⟨other, u, claimed⟩ :=
    (claim erringCloud "vm-1" lifecycleTimeout .initial).2.failed 0 detail first found bad
  rw [raised] at claimed
  simp at claimed

end VMachine.OpenStack
