import Mathlib.Data.List.Basic
import VMachine.Lib.Effects

/-! Programs that leave a trace in their state. A program emits a list if it has appended all of
it when it returns, and a beginning of it when it raises: it does what it has to do in order, and
stops where it fails. -/
namespace Traces
open Effects

variable {ε σ τ υ α β : Type} {trace : σ → List τ} {xs ys : List τ}

def Emits (trace : σ → List τ) (xs : List τ) (m : EStateM ε σ α) : Prop :=
  ∀ s, wp m s (fun _ t => trace t = trace s ++ xs) (fun _ t => ∃ done, done <+: xs ∧ trace t = trace s ++ done)

theorem Emits.of_ok {m : EStateM ε σ α} {s t : σ} {a : α} (emits : Emits trace xs m) (run : m s = .ok a t) :
    trace t = trace s ++ xs := by
  simpa only [wp, run] using emits s

theorem Emits.of_error {m : EStateM ε σ α} {s t : σ} {e : ε} (emits : Emits trace xs m) (run : m s = .error e t) :
    ∃ done, done <+: xs ∧ trace t = trace s ++ done := by
  simpa only [wp, run] using emits s

theorem emits_pure (a : α) : Emits trace [] (pure a : EStateM ε σ α) := fun s => (List.append_nil (trace s)).symm

theorem emits_throw (xs : List τ) (e : ε) : Emits trace xs (throw e : EStateM ε σ α) :=
  fun s => ⟨[], List.nil_prefix, (List.append_nil (trace s)).symm⟩

theorem emits_modify {f : σ → σ} (adds : ∀ s, trace (f s) = trace s ++ xs) :
    Emits trace xs (modify f : EStateM ε σ PUnit) := adds

/-- One after the other: if the second fails, the first has done all of its part. -/
theorem emits_bind {m : EStateM ε σ α} {f : α → EStateM ε σ β} (first : Emits trace xs m)
    (rest : ∀ a, Emits trace ys (f a)) : Emits trace (xs ++ ys) (m >>= f) := by
  intro s
  rw [wp_bind]
  refine wp_mono (first s) ?_ ?_
  · intro a t before
    refine wp_mono (rest a t) ?_ ?_
    · intro b u after
      rw [after, before, List.append_assoc]
    · rintro e u ⟨done, part, after⟩
      exact ⟨xs ++ done, (List.prefix_append_right_inj xs).mpr part, by rw [after, before, List.append_assoc]⟩
  · rintro e t ⟨done, part, before⟩
    exact ⟨done, part.trans (List.prefix_append xs ys), before⟩

theorem emits_cons {m : EStateM ε σ α} {f : α → EStateM ε σ β} {x : τ} (first : Emits trace [x] m)
    (rest : ∀ a, Emits trace ys (f a)) : Emits trace (x :: ys) (m >>= f) :=
  emits_bind first rest

/-- A part that leaves no trace, before or after. -/
theorem emits_after {m : EStateM ε σ α} {f : α → EStateM ε σ β} (first : Emits trace [] m)
    (rest : ∀ a, Emits trace ys (f a)) : Emits trace ys (m >>= f) :=
  emits_bind first rest

theorem emits_before {m : EStateM ε σ α} {f : α → EStateM ε σ β} (first : Emits trace xs m)
    (rest : ∀ a, Emits trace [] (f a)) : Emits trace xs (m >>= f) := by
  have whole := emits_bind first rest
  rw [List.append_nil] at whole
  exact whole

/-- What follows a part that always raises leaves no trace. -/
theorem emits_stop {m : EStateM ε σ α} {f : α → EStateM ε σ β} (emits : Emits trace xs m) (raises : Raises m) :
    Emits trace xs (m >>= f) := by
  intro s
  rw [wp_bind]
  exact wp_mono (wp_and (emits s) (raises s)) (fun _ _ never => never.2.elim) (fun _ _ stopped => stopped.1)

theorem emits_ite (c : Prop) [Decidable c] {m n : EStateM ε σ α} (yes : Emits trace xs m) (no : Emits trace xs n) :
    Emits trace xs (if c then m else n) := by
  split
  · exact yes
  · exact no

/-- What is emitted can be looked at in part. -/
theorem emits_map {m : EStateM ε σ α} (f : τ → υ) (emits : Emits trace xs m) :
    Emits (fun s => (trace s).map f) (xs.map f) m := by
  intro s
  refine wp_mono (emits s) ?_ ?_
  · intro a t after
    simp only [after, List.map_append]
  · rintro e t ⟨done, part, after⟩
    exact ⟨done.map f, part.map f, by simp only [after, List.map_append]⟩

end Traces
