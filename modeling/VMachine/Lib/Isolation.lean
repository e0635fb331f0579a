import VMachine.Lib.Runs

/-! Systems in which every step is taken by somebody, and what one party can see is changed by
the steps of that party only. A run of the whole is then, for each party, a run of that party
alone, whatever the others do in between. -/
namespace Isolation
open Runs

variable {S E L ι : Type*} [DecidableEq ι]

/- What party `i` sees of the whole, and how its own steps change that. -/
structure View (step : S → E → Option S) (owner : E → ι) (inv : S → Prop) (i : ι) (L : Type*) where
  look : S → L
  solo : L → E → Option L
  own : ∀ s e t, inv s → owner e = i → step s e = some t → solo (look s) e = some (look t)
  others : ∀ s e t, inv s → owner e ≠ i → step s e = some t → look t = look s

def ownEvents (owner : E → ι) (i : ι) (es : List E) : List E := es.filter (fun e => decide (owner e = i))

theorem ownEvents_cons_own {owner : E → ι} {i : ι} {e : E} (mine : owner e = i) (es : List E) :
    ownEvents owner i (e :: es) = e :: ownEvents owner i es := by
  simp [ownEvents, mine]

theorem ownEvents_cons_other {owner : E → ι} {i : ι} {e : E} (foreign : owner e ≠ i) (es : List E) :
    ownEvents owner i (e :: es) = ownEvents owner i es := by
  simp [ownEvents, foreign]

section Projection
variable {step : S → E → Option S} {owner : E → ι} {inv : S → Prop} {i : ι}

/-- The party sees what it would see if it had taken its steps alone. -/
theorem exec_view (view : View step owner inv i L) (kept : ∀ s e t, inv s → step s e = some t → inv t)
    {s t : S} {es : List E} (initial : inv s) (run : exec step s es = some t) :
    exec view.solo (view.look s) (ownEvents owner i es) = some (view.look t) := by
  induction es generalizing s with
  | nil =>
    cases run
    rfl
  | cons e es ih =>
    obtain ⟨u, next, rest⟩ := (exec_cons step).mp run
    have later := ih (kept s e u initial next) rest
    by_cases mine : owner e = i
    · rw [ownEvents_cons_own mine, exec_cons]
      exact ⟨view.look u, view.own s e u initial mine next, later⟩
    · rw [ownEvents_cons_other mine, ← view.others s e u initial mine next]
      exact later

end Projection

end Isolation
