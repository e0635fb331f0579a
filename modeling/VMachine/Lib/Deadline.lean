import Mathlib.Algebra.Order.Floor.Semiring
import Mathlib.Algebra.Order.Field.Basic
import Mathlib.Tactic.Linarith

/-! Loops that go round until something is decided or a deadline is over. The clock is read
once a round and moves on by at least some interval in each, which bounds the number of
rounds by the rounded-up quotient of the time allowed and that interval. -/
namespace Deadline

section Clocks
variable {τ : Type*} [Field τ] [LinearOrder τ] [IsStrictOrderedRing τ] {interval timeout : τ}

/- What the clock shows at the beginning of each round. -/
structure Clock (interval : τ) where
  read : Nat → τ
  advances : ∀ k, read k + interval ≤ read (k + 1)

theorem Clock.read_ge (clock : Clock interval) (k : Nat) : clock.read 0 + k * interval ≤ clock.read k := by
  induction k with
  | zero => simp
  | succ k ih =>
    have next := clock.advances k
    push_cast
    linarith

/-- A round that begins in time is one of the first `⌈timeout / interval⌉₊`; one that begins
at the deadline itself does not. -/
theorem Clock.round_lt [FloorSemiring τ] (clock : Clock interval) (positive : 0 < interval) {k : Nat}
    (early : clock.read k < clock.read 0 + timeout) : k < ⌈timeout / interval⌉₊ := by
  have elapsed := clock.read_ge k
  have within : k * interval < timeout := by linarith
  rw [Nat.lt_ceil, lt_div_iff₀ positive]
  exact within

end Clocks

section Rounds
variable {β : Type*} {early : Nat → Prop} {verdict : Nat → Option β} {m n : Nat}

/- The rounds before this one begin in time and decide nothing. -/
def Undecided (early : Nat → Prop) (verdict : Nat → Option β) (n : Nat) : Prop :=
  ∀ k < n, early k ∧ verdict k = none

/- The loop gets to this round and begins it in time. -/
def Begun (early : Nat → Prop) (verdict : Nat → Option β) (n : Nat) : Prop :=
  Undecided early verdict n ∧ early n

/-- The loop ends: a round decides, or one comes too late. -/
theorem decided_or_late (ends : ∃ n, ¬ early n) :
    (∃ n b, Begun early verdict n ∧ verdict n = some b) ∨ ∃ n, Undecided early verdict n ∧ ¬ early n := by
  classical
  have stops : ∃ n, ¬ (early n ∧ verdict n = none) := by
    obtain ⟨n, past⟩ := ends
    exact ⟨n, fun both => past both.1⟩
  have undecided : Undecided early verdict (Nat.find stops) := by
    intro k fewer
    exact not_not.mp (Nat.find_min stops fewer)
  by_cases begun : early (Nat.find stops)
  · left
    cases decided : verdict (Nat.find stops) with
    | none => exact absurd ⟨begun, decided⟩ (Nat.find_spec stops)
    | some b => exact ⟨_, b, ⟨undecided, begun⟩, decided⟩
  · exact .inr ⟨_, undecided, begun⟩

end Rounds

end Deadline
