import Mathlib.Order.Defs.PartialOrder

/-! Pre- and postconditions for stateful programs that may raise. A raised exception keeps
the state it was raised in, as a Python `except` clause sees it. `wp` reads off what a
program establishes when it returns and when it raises; its rules execute a program
symbolically, one command at a time. -/
namespace Effects

variable {ε σ α β : Type}

/- The program, run from `s`, establishes `Q` when it returns and `E` when it raises. -/
def wp (m : EStateM ε σ α) (s : σ) (Q : α → σ → Prop) (E : ε → σ → Prop) : Prop :=
  match m s with
  | .ok a t => Q a t
  | .error e t => E e t

section Rules
variable {s : σ} {Q : β → σ → Prop} {E : ε → σ → Prop}

@[simp] theorem wp_pure (a : β) : wp (pure a) s Q E ↔ Q a s := Iff.rfl

@[simp] theorem wp_throw (e : ε) : wp (throw e : EStateM ε σ β) s Q E ↔ E e s := Iff.rfl

@[simp] theorem wp_bind (m : EStateM ε σ α) (f : α → EStateM ε σ β) :
    wp (m >>= f) s Q E ↔ wp m s (fun a t => wp (f a) t Q E) E := by
  simp only [wp, bind, EStateM.bind]
  cases m s <;> rfl

@[simp] theorem wp_tryCatch (m : EStateM ε σ β) (handle : ε → EStateM ε σ β) :
    wp (tryCatch m handle) s Q E ↔ wp m s Q (fun e t => wp (handle e) t Q E) := by
  simp only [wp, tryCatch, tryCatchThe, MonadExceptOf.tryCatch]
  unfold EStateM.tryCatch
  cases m s <;> rfl

@[simp] theorem wp_get {Q : σ → σ → Prop} : wp (get : EStateM ε σ σ) s Q E ↔ Q s s := Iff.rfl

@[simp] theorem wp_set {Q : PUnit → σ → Prop} (t : σ) :
    wp (set t : EStateM ε σ PUnit) s Q E ↔ Q ⟨⟩ t := Iff.rfl

@[simp] theorem wp_modify {Q : PUnit → σ → Prop} (f : σ → σ) :
    wp (modify f : EStateM ε σ PUnit) s Q E ↔ Q ⟨⟩ (f s) := Iff.rfl

@[simp] theorem wp_ite (c : Prop) [Decidable c] (m n : EStateM ε σ β) :
    wp (if c then m else n) s Q E ↔ if c then wp m s Q E else wp n s Q E := by
  split <;> rfl

theorem wp_mono {m : EStateM ε σ β} {Q' : β → σ → Prop} {E' : ε → σ → Prop} (h : wp m s Q E)
    (returns : ∀ a t, Q a t → Q' a t) (raises : ∀ e t, E e t → E' e t) : wp m s Q' E' := by
  unfold wp at h ⊢
  cases run : m s with
  | ok a t =>
    rw [run] at h
    exact returns a t h
  | error e t =>
    rw [run] at h
    exact raises e t h

theorem wp_true (m : EStateM ε σ α) (s : σ) : wp m s (fun _ _ => True) (fun _ _ => True) := by
  unfold wp
  split <;> trivial

/-- Whatever the first program does, the second one establishes what is asked. -/
theorem wp_then {m : EStateM ε σ α} {f : α → EStateM ε σ β} (raises : ∀ e t, E e t)
    (rest : ∀ a t, wp (f a) t Q E) : wp (m >>= f) s Q E := by
  rw [wp_bind]
  exact wp_mono (wp_true m s) (fun a t _ => rest a t) (fun e t _ => raises e t)

theorem wp_and {m : EStateM ε σ β} {Q' : β → σ → Prop} {E' : ε → σ → Prop} (h : wp m s Q E)
    (h' : wp m s Q' E') : wp m s (fun a t => Q a t ∧ Q' a t) (fun e t => E e t ∧ E' e t) := by
  unfold wp at h h' ⊢
  cases run : m s with
  | ok a t =>
    rw [run] at h h'
    exact ⟨h, h'⟩
  | error e t =>
    rw [run] at h h'
    exact ⟨h, h'⟩

/-- No run ends in an impossible way. -/
theorem wp_absurd {m : EStateM ε σ β} (never : wp m s (fun _ _ => False) (fun _ _ => False)) : False := by
  unfold wp at never
  split at never <;> exact never

/-- Once the run is known, so is what the program establishes. -/
theorem wp_iff_of_ok {m : EStateM ε σ β} {a : β} {t : σ} (run : m s = .ok a t) : wp m s Q E ↔ Q a t := by
  simp only [wp, run]

theorem wp_iff_of_error {m : EStateM ε σ β} {e : ε} {t : σ} (run : m s = .error e t) :
    wp m s Q E ↔ E e t := by
  simp only [wp, run]

theorem wp_of_ok {m : EStateM ε σ β} {a : β} {t : σ} (h : wp m s Q E) (run : m s = .ok a t) : Q a t := by
  exact (wp_iff_of_ok run).mp h

theorem wp_of_error {m : EStateM ε σ β} {e : ε} {t : σ} (h : wp m s Q E) (run : m s = .error e t) :
    E e t := by
  exact (wp_iff_of_error run).mp h

/-- What every return establishes, and what is established by returning. -/
theorem wp_iff_forall_ok {m : EStateM ε σ β} :
    wp m s Q (fun _ _ => True) ↔ ∀ a t, m s = .ok a t → Q a t := by
  constructor
  · intro h a t run
    exact wp_of_ok h run
  · intro every
    cases run : m s with
    | ok a t => exact (wp_iff_of_ok run).mpr (every a t run)
    | error e t => exact (wp_iff_of_error run).mpr trivial

theorem wp_iff_exists_ok {m : EStateM ε σ β} :
    wp m s Q (fun _ _ => False) ↔ ∃ a t, m s = .ok a t ∧ Q a t := by
  constructor
  · intro h
    cases run : m s with
    | ok a t => exact ⟨a, t, rfl, wp_of_ok h run⟩
    | error e t => exact (wp_of_error h run).elim
  · rintro ⟨a, t, run, holds⟩
    exact (wp_iff_of_ok run).mpr holds

/-- A program that can only end in one way does. -/
theorem ok_of_wp {m : EStateM ε σ β} {a : β} {t : σ}
    (spec : wp m s (fun b u => b = a ∧ u = t) (fun _ _ => False)) : m s = .ok a t := by
  cases run : m s with
  | ok b u =>
    obtain ⟨rfl, rfl⟩ := wp_of_ok spec run
    rfl
  | error e u => exact (wp_of_error spec run).elim

theorem error_of_wp {m : EStateM ε σ β} {e : ε} {t : σ}
    (spec : wp m s (fun _ _ => False) (fun f u => f = e ∧ u = t)) : m s = .error e t := by
  cases run : m s with
  | ok b u => exact (wp_of_ok spec run).elim
  | error f u =>
    obtain ⟨rfl, rfl⟩ := wp_of_error spec run
    rfl

/- Whether the program returns. -/
def returns (m : EStateM ε σ α) (s : σ) : Bool :=
  match m s with
  | .ok _ _ => true
  | .error _ _ => false

theorem exists_ok_of_returns {m : EStateM ε σ α} (ends : returns m s = true) : ∃ a t, m s = .ok a t := by
  unfold returns at ends
  split at ends
  · rename_i a t run
    exact ⟨a, t, run⟩
  · contradiction

instance decidableWp (m : EStateM ε σ β) (s : σ) [∀ a t, Decidable (Q a t)] [∀ e t, Decidable (E e t)] :
    Decidable (wp m s Q E) :=
  show Decidable (match m s with | .ok a t => Q a t | .error e t => E e t) from
    match m s with
    | .ok a t => inferInstanceAs (Decidable (Q a t))
    | .error e t => inferInstanceAs (Decidable (E e t))

end Rules

/- The program returns in no state. -/
def Raises (m : EStateM ε σ α) : Prop := ∀ s, wp m s (fun _ _ => False) (fun _ _ => True)

section Raising

theorem raises_throw (e : ε) : Raises (throw e : EStateM ε σ α) := fun _ => trivial

theorem raises_bind {m : EStateM ε σ α} (raises : Raises m) (f : α → EStateM ε σ β) : Raises (m >>= f) := by
  intro s
  rw [wp_bind]
  exact wp_mono (raises s) (fun _ _ never => never.elim) (fun _ _ h => h)

/-- Whatever the first program returns, the second one raises for it. -/
theorem raises_after {m : EStateM ε σ α} {P : α → Prop} {f : α → EStateM ε σ β}
    (first : ∀ s, wp m s (fun a _ => P a) (fun _ _ => True)) (rest : ∀ a, P a → Raises (f a)) :
    Raises (m >>= f) := by
  intro s
  rw [wp_bind]
  exact wp_mono (first s) (fun a t holds => rest a holds t) (fun _ _ _ => trivial)

theorem raises_then {m : EStateM ε σ α} {f : α → EStateM ε σ β} (rest : ∀ a, Raises (f a)) :
    Raises (m >>= f) := by
  exact @raises_after ε σ α β m (fun _ => True) f (wp_true m) (fun a _ => rest a)

theorem raises_tryCatch {m : EStateM ε σ α} {handle : ε → EStateM ε σ α} (body : Raises m)
    (handler : ∀ e, Raises (handle e)) : Raises (tryCatch m handle) := by
  intro s
  rw [wp_tryCatch]
  exact wp_mono (body s) (fun _ _ never => never.elim) (fun e t _ => handler e t)

theorem Raises.not_ok {m : EStateM ε σ α} (raises : Raises m) {s t : σ} {a : α} : m s ≠ .ok a t := by
  intro run
  exact wp_of_ok (raises s) run

end Raising

/- A relation between two states of which the second is reached from the first. -/
structure Frame (σ : Type) where
  rel : σ → σ → Prop
  refl : ∀ s, rel s s
  trans : ∀ {s t u}, rel s t → rel t u → rel s u

/- However it ends, the program relates its first state to its last. -/
def Frames (F : Frame σ) (m : EStateM ε σ α) : Prop :=
  ∀ s, wp m s (fun _ t => F.rel s t) (fun _ t => F.rel s t)

section Framing
variable {F : Frame σ}

theorem Frames.of_ok {m : EStateM ε σ α} {s t : σ} {a : α} (frames : Frames F m) (run : m s = .ok a t) :
    F.rel s t := by
  simpa only [wp, run] using frames s

theorem Frames.of_error {m : EStateM ε σ α} {s t : σ} {e : ε} (frames : Frames F m)
    (run : m s = .error e t) : F.rel s t := by
  simpa only [wp, run] using frames s

theorem frames_pure (a : α) : Frames F (pure a : EStateM ε σ α) := fun s => F.refl s

theorem frames_throw (e : ε) : Frames F (throw e : EStateM ε σ α) := fun s => F.refl s

theorem frames_get : Frames F (get : EStateM ε σ σ) := fun s => F.refl s

theorem frames_modify {f : σ → σ} (related : ∀ s, F.rel s (f s)) :
    Frames F (modify f : EStateM ε σ PUnit) := related

theorem frames_bind {m : EStateM ε σ α} {f : α → EStateM ε σ β} (first : Frames F m)
    (rest : ∀ a, Frames F (f a)) : Frames F (m >>= f) := by
  intro s
  rw [wp_bind]
  refine wp_mono (first s) ?_ (fun _ _ h => h)
  intro a t before
  exact wp_mono (rest a t) (fun _ _ after => F.trans before after) (fun _ _ after => F.trans before after)

theorem frames_tryCatch {m : EStateM ε σ α} {handle : ε → EStateM ε σ α} (body : Frames F m)
    (handler : ∀ e, Frames F (handle e)) : Frames F (tryCatch m handle) := by
  intro s
  rw [wp_tryCatch]
  refine wp_mono (body s) (fun _ _ h => h) ?_
  intro e t before
  exact wp_mono (handler e t) (fun _ _ after => F.trans before after) (fun _ _ after => F.trans before after)

theorem frames_ite (c : Prop) [Decidable c] {m n : EStateM ε σ α} (yes : Frames F m) (no : Frames F n) :
    Frames F (if c then m else n) := by
  split
  · exact yes
  · exact no

end Framing

/- The program keeps the invariant, and returns nothing but the value. -/
def Computes (I : σ → Prop) (m : EStateM ε σ α) (value : Except ε α) : Prop :=
  ∀ s, I s → wp m s (fun a t => value = .ok a ∧ I t) (fun _ t => I t)

section Computing
variable {I : σ → Prop}

theorem computes_pure (a : α) : Computes I (pure a : EStateM ε σ α) (pure a) := fun _ inv => ⟨rfl, inv⟩

theorem computes_throw (e : ε) (value : Except ε α) : Computes I (throw e : EStateM ε σ α) value :=
  fun _ inv => inv

theorem computes_bind {m : EStateM ε σ α} {f : α → EStateM ε σ β} {value : Except ε α} {next : α → Except ε β}
    (first : Computes I m value) (rest : ∀ a, value = .ok a → Computes I (f a) (next a)) :
    Computes I (m >>= f) (value >>= next) := by
  intro s inv
  rw [wp_bind]
  refine wp_mono (first s inv) ?_ (fun _ _ kept => kept)
  rintro a t ⟨found, kept⟩
  rw [found]
  exact rest a found t kept

end Computing

end Effects
