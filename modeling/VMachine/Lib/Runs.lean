import Mathlib.Data.List.Basic

/-! Runs of a partial step function over a list of events. A run is executable, and
a step that is not enabled ends it with `none`, so a statement about every accepted
list of events is a statement about every interleaving of the parties that issue them. -/
namespace Runs

section Execution
variable {S E : Type*} (step : S → E → Option S)

def exec (s : S) : List E → Option S
  | [] => some s
  | e :: es => (step s e).bind (fun t => exec t es)

/- Every step of the run is taken in a state and by an event related by `P`. -/
def Along (P : S → E → Prop) (s : S) : List E → Prop
  | [] => True
  | e :: es => P s e ∧ ∀ t, step s e = some t → Along P t es

/- Every state of the run has the property. -/
def Always (G : S → Prop) (s : S) : List E → Prop
  | [] => G s
  | e :: es => G s ∧ ∀ t, step s e = some t → Always G t es

@[simp] theorem exec_nil (s : S) : exec step s [] = some s := rfl

theorem exec_cons {s u : S} {e : E} {es : List E} :
    exec step s (e :: es) = some u ↔ ∃ t, step s e = some t ∧ exec step t es = some u := by
  simp only [exec, Option.bind_eq_some_iff]

theorem exec_append {s u : S} {es fs : List E} :
    exec step s (es ++ fs) = some u ↔ ∃ t, exec step s es = some t ∧ exec step t fs = some u := by
  induction es generalizing s with
  | nil => simp
  | cons e es ih =>
    simp only [List.cons_append, exec_cons, ih]
    constructor
    · rintro ⟨t, ht, v, hv, hu⟩
      exact ⟨v, ⟨t, ht, hv⟩, hu⟩
    · rintro ⟨v, ⟨t, ht, hv⟩, hu⟩
      exact ⟨t, ht, v, hv, hu⟩

/-- Where every step can be taken, so can every run. -/
theorem exec_total (total : ∀ s e, ∃ t, step s e = some t) (s : S) (es : List E) : ∃ t, exec step s es = some t := by
  induction es generalizing s with
  | nil => exact ⟨s, rfl⟩
  | cons e es ih =>
    obtain ⟨u, next⟩ := total s e
    obtain ⟨t, rest⟩ := ih u
    exact ⟨t, (exec_cons step).mpr ⟨u, next, rest⟩⟩

/-- An invariant need only be preserved by the steps the run is known to take. -/
theorem invariant_along {P : S → E → Prop} {I : S → Prop}
    (preserved : ∀ s e t, I s → P s e → step s e = some t → I t)
    {s t : S} {es : List E} (initial : I s) (along : Along step P s es)
    (run : exec step s es = some t) : I t := by
  induction es generalizing s with
  | nil => exact (Option.some.inj run) ▸ initial
  | cons e es ih =>
    obtain ⟨u, hu, rest⟩ := (exec_cons step).mp run
    exact ih (preserved s e u initial along.1 hu) (along.2 u hu) rest

theorem invariant {I : S → Prop} (preserved : ∀ s e t, I s → step s e = some t → I t)
    {s t : S} {es : List E} (initial : I s) (run : exec step s es = some t) : I t := by
  induction es generalizing s with
  | nil => exact (Option.some.inj run) ▸ initial
  | cons e es ih =>
    obtain ⟨u, hu, rest⟩ := (exec_cons step).mp run
    exact ih (preserved s e u initial hu) rest

/-- An invariant that relates the state to the events that have led to it. -/
theorem history {I : List E → S → Prop} (preserved : ∀ es s e t, I es s → step s e = some t → I (es ++ [e]) t)
    {s t : S} {es : List E} (initial : I [] s) (run : exec step s es = some t) : I es t := by
  have onwards (before after : List E) : ∀ u, I before u → exec step u after = some t → I (before ++ after) t := by
    induction after generalizing before with
    | nil =>
      intro u holds stays
      cases stays
      rw [List.append_nil]
      exact holds
    | cons e after ih =>
      intro u holds goes
      obtain ⟨v, next, rest⟩ := (exec_cons step).mp goes
      rw [List.append_cons]
      exact ih (before ++ [e]) v (preserved before u e v holds next) rest
  exact onwards [] es s initial run

/-- A property that each step keeps exactly under a condition is kept by a run exactly along it. -/
theorem iff_along {P : S → E → Prop} {I G : S → Prop} (preserved : ∀ s e t, I s → step s e = some t → I t)
    (kept : ∀ s e t, I s → step s e = some t → (G t ↔ G s ∧ P s e))
    {s t : S} {es : List E} (initial : I s) (run : exec step s es = some t) :
    G t ↔ G s ∧ Along step P s es := by
  induction es generalizing s with
  | nil =>
    cases run
    simp [Along]
  | cons e es ih =>
    obtain ⟨u, next, rest⟩ := (exec_cons step).mp run
    rw [ih (preserved s e u initial next) rest, kept s e u initial next, Along, and_assoc]
    constructor
    · rintro ⟨held, condition, along⟩
      refine ⟨held, condition, fun other same => ?_⟩
      cases next.symm.trans same
      exact along
    · rintro ⟨held, condition, along⟩
      exact ⟨held, condition, along u next⟩

/-- A property that each step keeps exactly under a condition holds all along a run exactly if
the condition does. -/
theorem always_iff_along {P : S → E → Prop} {I G : S → Prop} (preserved : ∀ s e t, I s → step s e = some t → I t)
    (kept : ∀ s e t, I s → G s → step s e = some t → (G t ↔ P s e))
    {s t : S} {es : List E} (initial : I s) (good : G s) (run : exec step s es = some t) :
    Always step G s es ↔ Along step P s es := by
  induction es generalizing s with
  | nil => exact iff_of_true good trivial
  | cons e es ih =>
    obtain ⟨u, next, rest⟩ := (exec_cons step).mp run
    have invariant := preserved s e u initial next
    constructor
    · rintro ⟨_, later⟩
      have onwards := later u next
      have there : G u := by cases es with
        | nil => exact onwards
        | cons f fs => exact onwards.1
      refine ⟨(kept s e u initial good next).mp there, fun v same => ?_⟩
      cases next.symm.trans same
      exact (ih invariant there rest).mp onwards
    · rintro ⟨condition, later⟩
      have there : G u := (kept s e u initial good next).mpr condition
      refine ⟨good, fun v same => ?_⟩
      cases next.symm.trans same
      exact (ih invariant there rest).mpr (later u next)

/-- What an invariant entails holds in every state of the run. -/
theorem always_of_invariant {I G : S → Prop} (preserved : ∀ s e t, I s → step s e = some t → I t)
    (entails : ∀ s, I s → G s) {s t : S} {es : List E} (initial : I s) (run : exec step s es = some t) :
    Always step G s es := by
  induction es generalizing s with
  | nil => exact entails s initial
  | cons e es ih =>
    obtain ⟨u, next, rest⟩ := (exec_cons step).mp run
    refine ⟨entails s initial, fun v same => ?_⟩
    cases next.symm.trans same
    exact ih (preserved s e u initial next) rest

theorem last_of_always {G : S → Prop} {s t : S} {es : List E} (always : Always step G s es)
    (run : exec step s es = some t) : G t := by
  induction es generalizing s with
  | nil =>
    cases run
    exact always
  | cons e es ih =>
    obtain ⟨u, next, rest⟩ := (exec_cons step).mp run
    exact ih (always.2 u next) rest

/- Whether a run is along a condition can be found out by running it. -/
instance decidableAlong {P : S → E → Prop} [holds : ∀ s e, Decidable (P s e)] :
    (s : S) → (es : List E) → Decidable (Along step P s es)
  | _, [] => .isTrue trivial
  | s, e :: es =>
    match holds s e, next : step s e with
    | .isFalse no, _ => .isFalse (fun along => no along.1)
    | .isTrue yes, none => .isTrue ⟨yes, fun _ other => (nomatch next.symm.trans other)⟩
    | .isTrue yes, some t =>
      match decidableAlong t es with
      | .isTrue rest => .isTrue ⟨yes, fun _ other => Option.some.inj (next.symm.trans other) ▸ rest⟩
      | .isFalse no => .isFalse (fun along => no (along.2 t next))

/-- A run is along the condition, or takes a step that is not. -/
theorem along_or_breach {P : S → E → Prop} {s t : S} {es : List E} (run : exec step s es = some t) :
    Along step P s es ∨ ∃ before e after u v, es = before ++ e :: after ∧ exec step s before = some u ∧
      ¬ P u e ∧ step u e = some v ∧ exec step v after = some t := by
  induction es generalizing s with
  | nil => exact .inl trivial
  | cons e es ih =>
    obtain ⟨v, next, rest⟩ := (exec_cons step).mp run
    by_cases holds : P s e
    · obtain along | ⟨before, f, after, u, w, split, reach, broken, last, tail⟩ := ih rest
      · refine .inl ⟨holds, ?_⟩
        intro w other
        cases next.symm.trans other
        exact along
      · refine .inr ⟨e :: before, f, after, u, w, by rw [split]; rfl, ?_, broken, last, tail⟩
        exact (exec_cons step).mpr ⟨v, next, reach⟩
    · exact .inr ⟨[], e, es, s, v, rfl, rfl, holds, next, rest⟩

/-- A condition on the events alone holds along every run of them. -/
theorem along_of_forall {P : E → Prop} {s : S} {es : List E} (all : ∀ e ∈ es, P e) :
    Along step (fun _ => P) s es := by
  induction es generalizing s with
  | nil => trivial
  | cons e es ih =>
    refine ⟨all e (by simp), fun t _ => ih ?_⟩
    intro f hf
    exact all f (List.mem_cons_of_mem e hf)

theorem along_congr {P Q : S → E → Prop} {s : S} {es : List E} (same : ∀ s e, P s e ↔ Q s e) :
    Along step P s es ↔ Along step Q s es := by
  induction es generalizing s with
  | nil => exact Iff.rfl
  | cons e es ih => exact and_congr (same s e) (forall₂_congr (fun t _ => ih))

theorem along_and {P Q : S → E → Prop} {s : S} {es : List E} (hp : Along step P s es)
    (hq : Along step Q s es) : Along step (fun s e => P s e ∧ Q s e) s es := by
  induction es generalizing s with
  | nil => trivial
  | cons e es ih => exact ⟨⟨hp.1, hq.1⟩, fun t ht => ih (hp.2 t ht) (hq.2 t ht)⟩

end Execution

end Runs
