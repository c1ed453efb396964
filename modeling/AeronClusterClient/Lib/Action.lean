/- module: AeronClusterClient/Lib/Action
   generality: any state, any exception type
   digest: Two-state rules for computations that change a state and may throw. -/

import Mathlib.Order.Defs.Unbundled

/-!
A computation `x : EStateM ε σ α` ends in some state whether it returns or
throws: an exception does not undo the writes made before it. `Within R x`
says that this state is always related by `R` to the one `x` started from. For
a reflexive and transitive `R` the rules below build such facts along the
syntax of a program, one rule for each construct.
-/

set_option autoImplicit false
set_option relaxedAutoImplicit false

namespace AeronClusterClient.Lib.Action

variable {ε σ α β : Type}

/-- The state a computation leaves, by return or by exception. -/
def finalState (x : EStateM ε σ α) (s : σ) : σ :=
  match x.run s with
  | .ok _ t => t
  | .error _ t => t

/-- The value a computation returns, if it returns. -/
def returned (x : EStateM ε σ α) (s : σ) : Option α :=
  match x.run s with
  | .ok a _ => some a
  | .error _ _ => none

theorem finalState_of_ok {x : EStateM ε σ α} {s t : σ} {a : α}
    (run : x.run s = .ok a t) : finalState x s = t := by
  simp [finalState, run]

theorem finalState_of_error {x : EStateM ε σ α} {s t : σ} {e : ε}
    (run : x.run s = .error e t) : finalState x s = t := by
  simp [finalState, run]

theorem finalState_congr {x y : EStateM ε σ α} {s t : σ} (run : x.run s = y.run t) :
    finalState x s = finalState y t := by
  unfold finalState
  rw [run]

theorem returned_eq_some {x : EStateM ε σ α} {s : σ} {a : α} :
    returned x s = some a ↔ ∃ t, x.run s = .ok a t := by
  unfold returned
  cases x.run s with
  | ok b t =>
      constructor
      · rintro ⟨⟩
        exact ⟨t, rfl⟩
      · rintro ⟨_, ⟨⟩⟩
        rfl
  | error e t => simp

theorem run_of_returned {x : EStateM ε σ α} {s : σ} {a : α} (value : returned x s = some a) :
    x.run s = .ok a (finalState x s) := by
  obtain ⟨t, run⟩ := returned_eq_some.mp value
  rw [finalState_of_ok run, run]

theorem finalState_tryCatch_pure (x : EStateM ε σ α) (a : ε → α) (s : σ) :
    finalState (tryCatch x (fun e => pure (a e))) s = finalState x s := by
  change finalState (EStateM.tryCatch x _) s = _
  unfold finalState EStateM.run EStateM.tryCatch
  cases run : x s with
  | ok b t => rfl
  | error e t => rfl

theorem finalState_bind_of_ok {x : EStateM ε σ α} {f : α → EStateM ε σ β} {s t : σ} {a : α}
    (run : x.run s = .ok a t) : finalState (x >>= f) s = finalState (f a) t := by
  unfold finalState
  rw [EStateM.run_bind, run]

theorem finalState_bind_of_error {x : EStateM ε σ α} {f : α → EStateM ε σ β} {s t : σ} {e : ε}
    (run : x.run s = .error e t) : finalState (x >>= f) s = t := by
  unfold finalState
  rw [EStateM.run_bind, run]

theorem finalState_bind_pure (x : EStateM ε σ α) (b : α → β) (s : σ) :
    finalState (x >>= fun a => pure (b a)) s = finalState x s := by
  unfold finalState
  rw [EStateM.run_bind]
  cases run : x.run s with
  | ok a t => rfl
  | error e t => rfl

/-- A sequence returns exactly when its first part returns and the rest returns from there. -/
theorem bind_eq_ok {x : EStateM ε σ α} {f : α → EStateM ε σ β} {s u : σ} {b : β} :
    (x >>= f).run s = .ok b u ↔
      ∃ a t, x.run s = .ok a t ∧ (f a).run t = .ok b u := by
  rw [EStateM.run_bind]
  cases x.run s with
  | ok a t =>
      constructor
      · exact fun rest => ⟨a, t, rfl, rest⟩
      · rintro ⟨_, _, ⟨rfl, rfl⟩, rest⟩
        exact rest
  | error e t => simp

theorem except_bind_eq_ok {x : Except ε α} {f : α → Except ε β} {b : β} :
    x >>= f = .ok b ↔ ∃ a, x = .ok a ∧ f a = .ok b := by
  cases x with
  | ok a =>
      constructor
      · exact fun rest => ⟨a, rfl, rest⟩
      · rintro ⟨_, ⟨⟩, rest⟩
        exact rest
  | error e =>
      constructor
      · rintro ⟨⟩
      · rintro ⟨_, ⟨⟩, _⟩

theorem ofExcept_eq_ok {x : Except ε α} {s t : σ} {a : α} :
    (ofExcept x : EStateM ε σ α).run s = .ok a t ↔ x = .ok a ∧ s = t := by
  cases x with
  | ok b =>
      constructor
      · rintro ⟨⟩
        exact ⟨rfl, rfl⟩
      · rintro ⟨⟨⟩, rfl⟩
        rfl
  | error e =>
      constructor
      · rintro ⟨⟩
      · rintro ⟨⟨⟩, -⟩

theorem ofExcept_eq_error {x : Except ε α} {s t : σ} {e : ε} :
    (ofExcept x : EStateM ε σ α).run s = .error e t ↔ x = .error e ∧ s = t := by
  cases x with
  | ok b =>
      constructor
      · rintro ⟨⟩
      · rintro ⟨⟨⟩, -⟩
  | error f =>
      constructor
      · rintro ⟨⟩
        exact ⟨rfl, rfl⟩
      · rintro ⟨⟨⟩, rfl⟩
        rfl

/-- A guarded computation whose handlers never return this has returned it from its body. -/
theorem of_tryCatch_eq_ok {x : EStateM ε σ α} {handler : ε → EStateM ε σ α} {s t : σ} {a : α}
    (other : ∀ e u, (handler e).run u ≠ .ok a t)
    (run : (tryCatch x handler).run s = .ok a t) : x.run s = .ok a t := by
  change (EStateM.tryCatch x handler).run s = _ at run
  unfold EStateM.run EStateM.tryCatch at *
  cases body : x s with
  | ok b u => simpa [body] using run
  | error e u =>
      rw [body] at run
      exact absurd run (other e u)

theorem tryCatch_of_ok {x : EStateM ε σ α} {handler : ε → EStateM ε σ α} {s t : σ} {a : α}
    (run : x.run s = .ok a t) : (tryCatch x handler).run s = .ok a t := by
  change EStateM.tryCatch x handler s = _
  unfold EStateM.run at run
  unfold EStateM.tryCatch
  rw [run]

theorem tryCatch_of_error {x : EStateM ε σ α} {handler : ε → EStateM ε σ α} {s t : σ} {e : ε}
    (run : x.run s = .error e t) : (tryCatch x handler).run s = (handler e).run t := by
  change EStateM.tryCatch x handler s = _
  unfold EStateM.run at run
  unfold EStateM.tryCatch
  rw [run]
  rfl

/-- From every state, the computation ends in a state that `R` relates to it. -/
def Within (R : σ → σ → Prop) (x : EStateM ε σ α) : Prop :=
  ∀ s, R s (finalState x s)

section Rules

variable {R : σ → σ → Prop}

theorem Within.of_ok {x : EStateM ε σ α} (within : Within R x) {s t : σ} {a : α}
    (run : x.run s = .ok a t) : R s t := by
  have h := within s
  rwa [finalState_of_ok run] at h

theorem Within.of_error {x : EStateM ε σ α} (within : Within R x) {s t : σ} {e : ε}
    (run : x.run s = .error e t) : R s t := by
  have h := within s
  rwa [finalState_of_error run] at h

theorem Within.mono {Q : σ → σ → Prop} {x : EStateM ε σ α} (within : Within R x)
    (weaker : ∀ s t, R s t → Q s t) : Within Q x :=
  fun s => weaker _ _ (within s)

theorem within_modify {f : σ → σ} (step : ∀ s, R s (f s)) :
    Within R (modify f : EStateM ε σ PUnit) :=
  fun s => step s

theorem within_ite {c : Prop} [Decidable c] {x y : EStateM ε σ α}
    (hx : Within R x) (hy : Within R y) : Within R (if c then x else y) := by
  split
  · exact hx
  · exact hy

theorem within_get_bind {f : σ → EStateM ε σ α} (rest : ∀ s, R s (finalState (f s) s)) :
    Within R (get >>= f) :=
  rest

/-- The parts of a sequence may be described by different relations. -/
theorem within_bind_comp {Q S : σ → σ → Prop} {x : EStateM ε σ α} {f : α → EStateM ε σ β}
    (hx : Within Q x) (hf : ∀ a, Within S (f a)) (early : ∀ s t, Q s t → R s t)
    (both : ∀ s t u, Q s t → S t u → R s u) : Within R (x >>= f) := by
  intro s
  have first := hx s
  unfold finalState at first ⊢
  rw [EStateM.run_bind]
  cases run : x.run s with
  | ok a t =>
      simp only [run] at first ⊢
      exact both s t _ first (hf a t)
  | error e t =>
      simp only [run] at first ⊢
      exact early s t first

theorem bind_from {x : EStateM ε σ α} {f : α → EStateM ε σ β} {s : σ}
    (early : ∀ e t, x.run s = .error e t → R s t)
    (both : ∀ a t, x.run s = .ok a t → R s (finalState (f a) t)) :
    R s (finalState (x >>= f) s) := by
  unfold finalState at *
  rw [EStateM.run_bind]
  cases run : x.run s with
  | ok a t => exact both a t run
  | error e t => exact early e t run

theorem within_tryCatch_comp {Q S : σ → σ → Prop} {x : EStateM ε σ α}
    {handler : ε → EStateM ε σ α} (hx : Within Q x) (hh : ∀ e, Within S (handler e))
    (normal : ∀ s t, Q s t → R s t) (both : ∀ s t u, Q s t → S t u → R s u) :
    Within R (tryCatch x handler) := by
  intro s
  have first := hx s
  change R s (finalState (EStateM.tryCatch x handler) s)
  unfold finalState EStateM.run EStateM.tryCatch at *
  cases run : x s with
  | ok a t =>
      simp only [run] at first ⊢
      exact normal s t first
  | error e t =>
      simp only [run] at first ⊢
      exact both s t _ first (hh e t)

variable [IsPreorder σ R]

theorem within_pure (a : α) : Within R (pure a : EStateM ε σ α) :=
  fun s => refl_of R s

theorem within_get : Within R (get : EStateM ε σ σ) :=
  fun s => refl_of R s

theorem within_throw (e : ε) : Within R (throw e : EStateM ε σ α) :=
  fun s => refl_of R s

theorem within_ofExcept (x : Except ε α) : Within R (ofExcept x : EStateM ε σ α) := by
  cases x with
  | ok a => exact within_pure a
  | error e => exact within_throw e

theorem within_bind {x : EStateM ε σ α} {f : α → EStateM ε σ β}
    (hx : Within R x) (hf : ∀ a, Within R (f a)) : Within R (x >>= f) :=
  within_bind_comp hx hf (fun _ _ h => h) (fun _ _ _ => trans_of R)

theorem after_bind {x : EStateM ε σ α} {f : α → EStateM ε σ β} (rest : ∀ a, Within R (f a)) (s : σ) :
    R (finalState x s) (finalState (x >>= f) s) := by
  cases run : x.run s with
  | ok a t =>
      rw [finalState_of_ok run, finalState_bind_of_ok run]
      exact rest a t
  | error e t =>
      rw [finalState_of_error run, finalState_bind_of_error run]
      exact refl_of R t

theorem after_tryCatch {x : EStateM ε σ α} {handler : ε → EStateM ε σ α}
    (handled : ∀ e, Within R (handler e)) (s : σ) :
    R (finalState x s) (finalState (tryCatch x handler) s) := by
  cases run : x.run s with
  | ok a t =>
      rw [finalState_of_ok run, finalState_of_ok (tryCatch_of_ok run)]
      exact refl_of R t
  | error e t =>
      have rest := handled e t
      unfold finalState at rest ⊢
      rw [run, tryCatch_of_error run]
      exact rest

theorem within_tryCatch {x : EStateM ε σ α} {handler : ε → EStateM ε σ α}
    (hx : Within R x) (hh : ∀ e, Within R (handler e)) : Within R (tryCatch x handler) :=
  within_tryCatch_comp hx hh (fun _ _ h => h) (fun _ _ _ => trans_of R)

theorem within_forM {items : List α} {f : α → EStateM ε σ PUnit}
    (each : ∀ a ∈ items, Within R (f a)) : Within R (items.forM f) := by
  induction items with
  | nil => exact within_pure PUnit.unit
  | cons a items ih =>
      exact within_bind (each a List.mem_cons_self)
        (fun _ => ih (fun b hb => each b (List.mem_cons_of_mem a hb)))

end Rules

/-- From every state, the computation returns. -/
def Total (x : EStateM ε σ α) : Prop := ∀ s, ∃ a t, x.run s = .ok a t

section Totality

theorem total_pure (a : α) : Total (pure a : EStateM ε σ α) := fun s => ⟨a, s, rfl⟩

theorem total_modify (f : σ → σ) : Total (modify f : EStateM ε σ PUnit) :=
  fun s => ⟨PUnit.unit, f s, rfl⟩

theorem total_bind {x : EStateM ε σ α} {f : α → EStateM ε σ β} (hx : Total x)
    (hf : ∀ a, Total (f a)) : Total (x >>= f) := by
  intro s
  obtain ⟨a, t, first⟩ := hx s
  obtain ⟨b, u, rest⟩ := hf a t
  exact ⟨b, u, bind_eq_ok.mpr ⟨a, t, first, rest⟩⟩

theorem total_ite {c : Prop} [Decidable c] {x y : EStateM ε σ α} (hx : Total x)
    (hy : Total y) : Total (if c then x else y) := by
  split
  · exact hx
  · exact hy

theorem total_forM {items : List α} {f : α → EStateM ε σ PUnit} (each : ∀ a, Total (f a)) :
    Total (items.forM f) := by
  induction items with
  | nil => exact total_pure PUnit.unit
  | cons a items ih => exact total_bind (each a) fun _ => ih

theorem total_tryCatch {x : EStateM ε σ α} {handler : ε → EStateM ε σ α}
    (hh : ∀ e, Total (handler e)) : Total (tryCatch x handler) := by
  intro s
  change ∃ a t, (EStateM.tryCatch x handler) s = .ok a t
  unfold EStateM.tryCatch
  cases run : x s with
  | ok a t => exact ⟨a, t, by simp⟩
  | error e t =>
      simp only
      exact hh e t

end Totality

section Outcomes

/-- From this state the computation returns as `returns` says, or throws as `throws` says. -/
def Ends (x : EStateM ε σ α) (s : σ) (returns : α → σ → Prop) (throws : ε → σ → Prop) : Prop :=
  match x.run s with
  | .ok a t => returns a t
  | .error e t => throws e t

variable {returns : α → σ → Prop} {throws : ε → σ → Prop} {s : σ}

theorem ends_of_ok {x : EStateM ε σ α} {a : α} {t : σ} (run : x.run s = .ok a t) :
    Ends x s returns throws ↔ returns a t := by
  unfold Ends
  rw [run]

theorem ends_of_error {x : EStateM ε σ α} {e : ε} {t : σ} (run : x.run s = .error e t) :
    Ends x s returns throws ↔ throws e t := by
  unfold Ends
  rw [run]

theorem Ends.mono {x : EStateM ε σ α} {returns' : α → σ → Prop} {throws' : ε → σ → Prop}
    (ends : Ends x s returns throws) (normal : ∀ a t, returns a t → returns' a t)
    (early : ∀ e t, throws e t → throws' e t) : Ends x s returns' throws' := by
  cases run : x.run s with
  | ok a t =>
      have returned := (ends_of_ok run).mp ends
      exact (ends_of_ok run).mpr (normal a t returned)
  | error e t =>
      have thrown := (ends_of_error run).mp ends
      exact (ends_of_error run).mpr (early e t thrown)

theorem Within.ends {R : σ → σ → Prop} {x : EStateM ε σ α} (within : Within R x) (s : σ) :
    Ends x s (fun _ t => R s t) (fun _ t => R s t) := by
  cases run : x.run s with
  | ok a t => exact (ends_of_ok run).mpr (within.of_ok run)
  | error e t => exact (ends_of_error run).mpr (within.of_error run)

theorem ends_ite {c : Prop} [Decidable c] {x y : EStateM ε σ α} (hx : c → Ends x s returns throws)
    (hy : ¬ c → Ends y s returns throws) : Ends (if c then x else y) s returns throws := by
  split
  · exact hx ‹_›
  · exact hy ‹_›

/-- A sequence ends as its rest does, from where its first part returns. -/
theorem ends_bind {x : EStateM ε σ α} {f : α → EStateM ε σ β} {returns : β → σ → Prop} :
    Ends (x >>= f) s returns throws ↔ Ends x s (fun a t => Ends (f a) t returns throws) throws := by
  unfold Ends
  rw [EStateM.run_bind]
  cases x.run s with
  | ok a t => rfl
  | error e t => rfl

theorem ends_bind_of_ok {x : EStateM ε σ α} {f : α → EStateM ε σ β} {returns : β → σ → Prop} {a : α}
    {t : σ} (run : x.run s = .ok a t) (rest : Ends (f a) t returns throws) :
    Ends (x >>= f) s returns throws :=
  ends_bind.mpr ((ends_of_ok run).mpr rest)

theorem ends_tryCatch {x : EStateM ε σ α} {handler : ε → EStateM ε σ α} :
    Ends (tryCatch x handler) s returns throws ↔
      Ends x s returns (fun e t => Ends (handler e) t returns throws) := by
  cases run : x.run s with
  | ok a t => rw [ends_of_ok run, ends_of_ok (tryCatch_of_ok run)]
  | error e t =>
      rw [ends_of_error run]
      unfold Ends
      rw [tryCatch_of_error run]

end Outcomes

end AeronClusterClient.Lib.Action
