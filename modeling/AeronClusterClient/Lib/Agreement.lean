/- module: AeronClusterClient/Lib/Agreement
   generality: any state, any exception type
   digest: Rules for two computations that return and throw the same, whatever their states. -/

import AeronClusterClient.Lib.Action

/-!
Two computations agree if they have the same outcome from any two states: the
state may record what happens, and the outcome does not depend on it. The rules
follow the syntax of a program on both sides at once.
-/

set_option autoImplicit false
set_option relaxedAutoImplicit false

namespace AeronClusterClient.Lib.Agreement

open Lib.Action

variable {ε σ α β : Type}

/-- What a computation returns or throws, without the state it leaves. -/
def outcome (x : EStateM ε σ α) (s : σ) : Except ε α :=
  match x.run s with
  | .ok a _ => .ok a
  | .error e _ => .error e

theorem outcome_eq_ok {x : EStateM ε σ α} {s : σ} {a : α} :
    outcome x s = .ok a ↔ returned x s = some a := by
  unfold outcome returned
  cases x.run s with
  | ok b t => simp
  | error e t => simp

/-- From every two states, the computations return the same or throw the same. -/
def Agree (x y : EStateM ε σ α) : Prop := ∀ s t, outcome x s = outcome y t

theorem agree_pure (a : α) : Agree (pure a : EStateM ε σ α) (pure a) := fun _ _ => rfl

theorem agree_throw (e : ε) : Agree (throw e : EStateM ε σ α) (throw e) := fun _ _ => rfl

theorem agree_ofExcept (x : Except ε α) : Agree (ofExcept x : EStateM ε σ α) (ofExcept x) := by
  cases x with
  | ok a => exact agree_pure a
  | error e => exact agree_throw e

theorem agree_ite {c : Prop} [Decidable c] {x y x' y' : EStateM ε σ α} (hx : Agree x x')
    (hy : Agree y y') : Agree (if c then x else y) (if c then x' else y') := by
  split
  · exact hx
  · exact hy

theorem agree_bind_of_ok {x y : EStateM ε σ α} {f g : α → EStateM ε σ β} (hx : Agree x y)
    (hf : ∀ a s t, x.run s = .ok a t → Agree (f a) (g a)) : Agree (x >>= f) (y >>= g) := by
  intro s t
  have first := hx s t
  unfold outcome at first ⊢
  rw [EStateM.run_bind, EStateM.run_bind]
  cases left : x.run s with
  | ok a u =>
      cases right : y.run t with
      | ok b v =>
          rw [left, right] at first
          cases first
          exact hf a s u left u v
      | error e v =>
          rw [left, right] at first
          cases first
  | error e u =>
      cases right : y.run t with
      | ok b v =>
          rw [left, right] at first
          cases first
      | error e' v =>
          rw [left, right] at first
          cases first
          rfl

theorem agree_bind {x y : EStateM ε σ α} {f g : α → EStateM ε σ β} (hx : Agree x y)
    (hf : ∀ a, Agree (f a) (g a)) : Agree (x >>= f) (y >>= g) :=
  agree_bind_of_ok hx fun a _ _ _ => hf a

/-- First parts that always return and whose values are not used need not agree. -/
theorem agree_skip {x y : EStateM ε σ α} {f g : EStateM ε σ β} (hx : Total x) (hy : Total y)
    (hf : Agree f g) : Agree (x >>= fun _ => f) (y >>= fun _ => g) := by
  intro s t
  obtain ⟨a, u, left⟩ := hx s
  obtain ⟨b, v, right⟩ := hy t
  unfold outcome
  rw [EStateM.run_bind, EStateM.run_bind, left, right]
  exact hf u v

theorem agree_tryCatch {x y : EStateM ε σ α} {handler handler' : ε → EStateM ε σ α}
    (hx : Agree x y) (hh : ∀ e, Agree (handler e) (handler' e)) :
    Agree (tryCatch x handler) (tryCatch y handler') := by
  intro s t
  have first := hx s t
  change outcome (EStateM.tryCatch x handler) s = outcome (EStateM.tryCatch y handler') t
  unfold outcome EStateM.run EStateM.tryCatch at *
  cases left : x s with
  | ok a u =>
      cases right : y t with
      | ok b v =>
          rw [left, right] at first
          cases first
          rfl
      | error e v =>
          rw [left, right] at first
          cases first
  | error e u =>
      cases right : y t with
      | ok b v =>
          rw [left, right] at first
          cases first
      | error e' v =>
          rw [left, right] at first
          cases first
          exact hh e _ _

end AeronClusterClient.Lib.Agreement
