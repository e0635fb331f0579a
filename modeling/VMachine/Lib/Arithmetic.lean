import Mathlib.Analysis.Real.Sqrt
import Mathlib.Data.Rat.Floor

/-! Arithmetic with floating-point numbers, left open. A program over an `Arithmetic` is
written once, in the order of operations of its source, and is run with whatever numbers
are meant: machine floats with their rounding, or exact ones. -/

/- The operations a program uses. `lit` is the number nearest to a literal or to the
quotient of two integers, `round x n` and `fixed x n` keep `n` decimals. -/
structure Arithmetic (F : Type) where
  lit : ℚ → F
  add : F → F → F
  sub : F → F → F
  mul : F → F → F
  pow : F → Nat → F
  sqrt : F → F
  lt : F → F → Bool
  round : F → Nat → F
  fixed : F → Nat → String

namespace Arithmetic
variable {F : Type} (ar : Arithmetic F)

/- `max(x, y)`, which is `x` when neither is greater. -/
def max (x y : F) : F := if ar.lt x y then y else x

/- `x >= y`. -/
def ge (x y : F) : Bool := !ar.lt x y

/- `x` in units of the `n`-th decimal, halves rounded up. -/
def decimals (x : ℚ) (n : Nat) : Nat := ⌊x * 10 ^ n + 1 / 2⌋.toNat

def padded (width : Nat) (digits : String) : String :=
  String.ofList (List.replicate (width - digits.length) '0') ++ digits

/- Rational numbers that are not negative. The root is that of numerator and denominator,
exact on squares. -/
def rational : Arithmetic ℚ where
  lit x := x
  add x y := x + y
  sub x y := x - y
  mul x y := x * y
  pow x n := x ^ n
  sqrt x := (Nat.sqrt x.num.toNat : ℚ) / (Nat.sqrt x.den : ℚ)
  lt x y := decide (x < y)
  round x n := (decimals x n : ℚ) / 10 ^ n
  fixed x n := toString (decimals x n / 10 ^ n) ++ "." ++ padded n (toString (decimals x n % 10 ^ n))

/- The integer nearest to `x`, the even one of two. -/
noncomputable def nearest (x : ℝ) : ℤ :=
  if Int.fract x = (1 / 2 : ℚ) ∧ Even ⌊x⌋ then ⌊x⌋ else ⌊x + (1 / 2 : ℚ)⌋

/- The real numbers, where nothing but `round` and `fixed` rounds. -/
noncomputable def real : Arithmetic ℝ where
  lit x := x
  add x y := x + y
  sub x y := x - y
  mul x y := x * y
  pow x n := x ^ n
  sqrt x := Real.sqrt x
  lt x y := decide (x < y)
  round x n := nearest (x * 10 ^ n) / 10 ^ n
  fixed x n :=
    let digits := (nearest (x * 10 ^ n)).natAbs
    (if x < 0 then "-" else "") ++ toString (digits / 10 ^ n) ++ "." ++ padded n (toString (digits % 10 ^ n))

theorem abs_nearest_sub_le (x : ℝ) : |(nearest x : ℝ) - x| ≤ 1 / 2 := by
  have half : ((1 / 2 : ℚ) : ℝ) = 1 / 2 := by norm_num
  unfold nearest
  rw [half]
  split
  · rename_i tie
    have part : (⌊x⌋ : ℝ) - x = -(1 / 2) := by
      rw [← tie.1, Int.fract]
      ring
    rw [part, abs_neg, abs_of_pos (by norm_num)]
  · have below := Int.floor_le (x + 1 / 2)
    have above := Int.lt_floor_add_one (x + 1 / 2)
    rw [abs_le]
    constructor <;> linarith

/-- Rounding moves a number by half a unit of the last decimal at most. -/
theorem abs_real_round_sub_le (x : ℝ) (n : Nat) : |real.round x n - x| ≤ 1 / 2 / 10 ^ n := by
  have positive : (0 : ℝ) < 10 ^ n := by positivity
  have scaled : real.round x n - x = ((nearest (x * 10 ^ n) : ℝ) - x * 10 ^ n) / 10 ^ n := by
    simp only [real]
    field_simp
  rw [scaled, abs_div, abs_of_pos positive]
  exact div_le_div_of_nonneg_right (abs_nearest_sub_le _) positive.le

end Arithmetic
