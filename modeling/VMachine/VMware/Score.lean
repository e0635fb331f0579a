import VMachine.Lib.Clamped
import VMachine.VMware.Verdict

/-! The score as a sum. `evaluate` stops it at zero after every issue; as no severity has a
positive weight, stopping once is enough. -/
namespace VMachine.VMware

theorem scoreWeight_nonpos (severity : String) : scoreWeight severity ≤ 0 := by
  unfold scoreWeight
  simp only [List.lookup]
  repeat' split
  all_goals norm_num

/- What the issues take from the score. -/
def deductions (issues : List CompatibilityIssueDetail) : List ℚ := (weighed issues).map scoreWeight

theorem deductions_nonpos (issues : List CompatibilityIssueDetail) : ∀ deduction ∈ deductions issues, deduction ≤ 0 := by
  intro deduction member
  obtain ⟨severity, _, rfl⟩ := List.mem_map.mp member
  exact scoreWeight_nonpos severity

/-- With exact numbers, the loop is a running sum with zero as its floor. -/
theorem scoreOf_total (issues : List CompatibilityIssueDetail) :
    scoreOf .rational issues = Clamped.total 0 1 (deductions issues) := by
  rw [scoreOf_eq, Clamped.total, deductions, List.foldl_map]
  congr 1
  funext score severity
  simp only [deduct, Arithmetic.max, Arithmetic.rational, decide_eq_true_eq]
  split
  · rename_i more
    exact (max_eq_right more.le).symm
  · rename_i less
    exact (max_eq_left (not_lt.mp less)).symm

/-- The score is one less the weights of the issues that count, or zero if they weigh more. So it
does not depend on their order, and no further issue raises it. -/
theorem score_clamped_once (issues : List CompatibilityIssueDetail) :
    scoreOf .rational issues =
      max 0 (1 + ((issues.filter (fun issue => !issue.compatible)).map (fun issue => scoreWeight issue.severity)).sum) ∧
    (∀ others, issues.Perm others → scoreOf .rational others = scoreOf .rational issues) ∧
    (∀ before after issue, issues = before ++ after →
      scoreOf .rational (before ++ issue :: after) ≤ scoreOf .rational issues) := by
  have start : (0 : ℚ) ≤ 1 := by norm_num
  refine ⟨?_, ?_, ?_⟩
  · rw [scoreOf_total, Clamped.total_eq_max_sum start (deductions_nonpos issues), deductions, weighed, List.map_map]
    rfl
  · intro others perm
    rw [scoreOf_total, scoreOf_total]
    exact Clamped.total_perm start (deductions_nonpos issues) (((perm.filter _).map _).map _)
  · intro before after issue parts
    have part : issues.Sublist (before ++ issue :: after) := by
      rw [parts]
      exact (List.sublist_cons_self issue after).append_left before
    rw [scoreOf_total, scoreOf_total]
    exact Clamped.total_le_of_sublist start (deductions_nonpos _) (((part.filter _).map _).map _)

end VMachine.VMware
