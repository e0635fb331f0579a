import Mathlib.Data.List.Basic

/-! A first-in first-out pipe into a durable store, the least that a batching writer has
to implement: accepted values wait in order, and some leading ones move to the store. -/
namespace Fifo

structure Pipe (α : Type*) where
  stored : List α
  transit : List α

variable {α : Type*}

def Pipe.contents (p : Pipe α) : List α := p.stored ++ p.transit

/- A step is labelled by the values it accepts. Accepting none is a silent step. -/
inductive Step : Pipe α → List α → Pipe α → Prop where
  | accept (p : Pipe α) (xs : List α) : Step p xs ⟨p.stored, p.transit ++ xs⟩
  | store (stored xs rest : List α) : Step ⟨stored, xs ++ rest⟩ [] ⟨stored ++ xs, rest⟩

theorem step_silent (p : Pipe α) : Step p [] p := by
  simpa using Step.accept p []

/-- Nothing is lost, repeated or reordered on the way to the store. -/
theorem step_contents {p q : Pipe α} {xs : List α} (h : Step p xs q) :
    q.contents = p.contents ++ xs := by
  cases h with
  | accept => simp [Pipe.contents, List.append_assoc]
  | store => simp [Pipe.contents, List.append_assoc]

end Fifo
