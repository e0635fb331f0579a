import Mathlib.Algebra.Ring.Int.Defs
import VMachine.Lib.Tables
import VMachine.OpenStack.World

/-! What a session of SQLAlchemy does with the answers of the database: how many rows a query
may return, and which values the columns take. -/
namespace VMachine.Database
open OpenStack Tables

/- PostgreSQL holds the length of a `String(n)` and has integers of 32 bits; SQLite does not
look at lengths and has integers of 64 bits. -/
structure Backend where
  enforcesLengths : Bool
  integerBits : Nat
  deriving Repr, DecidableEq

def postgresql : Backend := ⟨true, 32⟩

def sqlite : Backend := ⟨false, 64⟩

/- A value of `String(n)`. -/
def Backend.takes (b : Backend) (n : Nat) (s : String) : Bool := !b.enforcesLengths || decide (s.length ≤ n)

/- A value of `Integer`. -/
def Backend.takesInt (b : Backend) (i : Int) : Bool :=
  decide (-(2 : Int) ^ (b.integerBits - 1) ≤ i ∧ i < (2 : Int) ^ (b.integerBits - 1))

/- What is raised for a statement that the database refuses. -/
def refusal : Violation → Exc
  | .unique => .foreign "IntegrityError" "UNIQUE constraint failed"
  | .check => .foreign "DataError" "value out of range"

/- `result.scalar_one_or_none()`. -/
def scalarOneOrNone {α : Type} : List α → Except Exc (Option α)
  | [] => .ok none
  | [row] => .ok (some row)
  | _ => .error (.foreign "MultipleResultsFound" "Multiple rows were found when one or none was required")

/-- Of rows that are selected by no less than their key, one or none is found. -/
theorem scalarOneOrNone_keyed {α κ : Type} {key : α → κ} {ok : α → Bool} (table : Table key ok) {p : α → Bool}
    (keyed : ∀ row other, p row = true → p other = true → key row = key other) :
    (scalarOneOrNone (table.rows.filter p) = .ok none ∧ ∀ row ∈ table.rows, p row = false) ∨
    ∃ row ∈ table.rows, p row = true ∧ scalarOneOrNone (table.rows.filter p) = .ok (some row) := by
  by_cases found : ∃ row ∈ table.rows, p row = true
  · obtain ⟨row, inside, selected⟩ := found
    refine .inr ⟨row, inside, selected, ?_⟩
    rw [Table.filter_eq_singleton inside selected (fun other too => keyed other row too selected)]
    rfl
  · push Not at found
    have none : table.rows.filter p = [] := List.filter_eq_nil_iff.mpr found
    refine .inl ⟨?_, fun row inside => Bool.eq_false_iff.mpr (found row inside)⟩
    rw [none]
    rfl

end VMachine.Database
