/- module: AeronClusterClient/Lib/Runs
   generality: any state, any kind of step
   digest: Runs of a deterministic step function, and what holds along them. -/

import Mathlib.Data.List.Forall2
import Mathlib.Order.Basic

/-!
A system moves from state to state by steps; a run is the list of its steps in
the order in which they are taken. A condition on a step may look at the state
in which the step is taken.
-/

set_option autoImplicit false
set_option relaxedAutoImplicit false

namespace AeronClusterClient.Lib.Runs

variable {σ ι : Type} (step : ι → σ → σ)

def stateAfter (s : σ) (steps : List ι) : σ := steps.foldl (fun s i => step i s) s

theorem stateAfter_append (s : σ) (first rest : List ι) :
    stateAfter step s (first ++ rest) = stateAfter step (stateAfter step s first) rest :=
  List.foldl_append

/-- Every step of the run meets a condition in the state in which it is taken. -/
def Meets (condition : σ → ι → Prop) : σ → List ι → Prop
  | _, [] => True
  | s, i :: rest => condition s i ∧ Meets condition (step i s) rest

variable {step}

theorem meets_append {condition : σ → ι → Prop} {s : σ} {first rest : List ι} :
    Meets step condition s (first ++ rest) ↔
      Meets step condition s first ∧ Meets step condition (stateAfter step s first) rest := by
  induction first generalizing s with
  | nil => simp [Meets, stateAfter]
  | cons i first ih =>
      rw [List.cons_append, Meets, ih, Meets, and_assoc]
      rfl

theorem meets_of_splits {condition : σ → ι → Prop} {s : σ} {steps : List ι}
    (each : ∀ first i rest, steps = first ++ i :: rest → condition (stateAfter step s first) i) :
    Meets step condition s steps := by
  induction steps generalizing s with
  | nil => trivial
  | cons i steps ih =>
      refine ⟨each [] i steps rfl, ih fun first j rest split => ?_⟩
      exact each (i :: first) j rest (by rw [split]; rfl)

theorem meets_congr {condition condition' : σ → ι → Prop}
    (agree : ∀ t i, condition t i ↔ condition' t i) {s : σ} {steps : List ι} :
    Meets step condition s steps ↔ Meets step condition' s steps := by
  induction steps generalizing s with
  | nil => exact Iff.rfl
  | cons i steps ih => exact and_congr (agree s i) ih

/-- What every step keeps holds after every run. -/
theorem invariant_of_steps (invariant : σ → Prop) {s : σ} {steps : List ι} (initially : invariant s)
    (kept : ∀ t i, invariant t → invariant (step i t)) : invariant (stateAfter step s steps) := by
  induction steps generalizing s with
  | nil => exact initially
  | cons i steps ih => exact ih (kept s i initially)

/-- What a step establishes and every step keeps holds ever after. -/
theorem invariant_since (invariant : σ → Prop) {s : σ} {first rest : List ι} {i : ι}
    (established : invariant (step i (stateAfter step s first)))
    (kept : ∀ t i, invariant t → invariant (step i t)) :
    invariant (stateAfter step s (first ++ i :: rest)) := by
  rw [stateAfter_append]
  change invariant (stateAfter step (step i (stateAfter step s first)) rest)
  exact invariant_of_steps invariant established kept

/-- Along a run that keeps an invariant, a condition may be traded for what the two imply. -/
theorem meets_of_invariant {condition condition' : σ → ι → Prop} (invariant : σ → Prop) {s : σ}
    {steps : List ι} (initially : invariant s) (kept : ∀ t i, invariant t → invariant (step i t))
    (implies : ∀ t i, invariant t → condition t i → condition' t i)
    (meets : Meets step condition s steps) : Meets step condition' s steps := by
  induction steps generalizing s with
  | nil => trivial
  | cons i steps ih =>
      exact ⟨implies s i initially meets.1, ih (kept s i initially) meets.2⟩

/-- What a step keeps under the condition holds after every run whose steps meet it. -/
theorem invariant_of_meets {condition : σ → ι → Prop} (invariant : σ → Prop) {s : σ}
    {steps : List ι} (initially : invariant s)
    (kept : ∀ t i, invariant t → condition t i → invariant (step i t))
    (meets : Meets step condition s steps) : invariant (stateAfter step s steps) := by
  induction steps generalizing s with
  | nil => exact initially
  | cons i steps ih => exact ih (kept s i initially meets.1) meets.2

/-- The same for a state the run passes through. -/
theorem invariant_of_prefix {condition : σ → ι → Prop} (invariant : σ → Prop) {s : σ}
    {first rest : List ι} (initially : invariant s)
    (kept : ∀ t i, invariant t → condition t i → invariant (step i t))
    (meets : Meets step condition s (first ++ rest)) : invariant (stateAfter step s first) :=
  invariant_of_meets invariant initially kept (meets_append.mp meets).1

section Simulations

variable {τ : Type} {step' : ι → τ → τ}

/-- Two systems that are related at the start, and stay so when both take a step, are related after
every run. -/
theorem related_of_steps (related : σ → τ → Prop) {s : σ} {t : τ} {steps : List ι}
    (initially : related s t)
    (kept : ∀ s t i, related s t → related (step i s) (step' i t)) :
    related (stateAfter step s steps) (stateAfter step' t steps) := by
  induction steps generalizing s t with
  | nil => exact initially
  | cons i steps ih => exact ih (kept s t i initially)

/-- A system whose steps are each imitated by some steps of another, which may be none, is imitated
along every run. -/
theorem simulated_of_steps {κ : Type} {step' : κ → τ → τ} (related : σ → τ → Prop)
    (imitated : ι → List κ → Prop)
    (one : ∀ s t i, related s t →
      ∃ moves, imitated i moves ∧ related (step i s) (stateAfter step' t moves))
    (steps : List ι) {s : σ} {t : τ} (initially : related s t) :
    ∃ moves, List.Forall₂ imitated steps moves ∧
      related (stateAfter step s steps) (stateAfter step' t moves.flatten) := by
  induction steps generalizing s t with
  | nil => exact ⟨[], .nil, initially⟩
  | cons i steps ih =>
      obtain ⟨first, begins, next⟩ := one s t i initially
      obtain ⟨later, follows, ends⟩ := ih next
      refine ⟨first :: later, .cons begins follows, ?_⟩
      rw [List.flatten_cons, stateAfter_append]
      exact ends

/-- If a step keeps two systems related exactly under the condition, they are related all along a
run exactly when all its steps meet it. -/
theorem related_iff_meets {condition : σ → ι → Prop} (invariant : σ → Prop) (related : σ → τ → Prop)
    {s : σ} {t : τ} {steps : List ι} (initially : invariant s) (holds : related s t)
    (kept : ∀ s i, invariant s → invariant (step i s))
    (one : ∀ s t i, invariant s → related s t →
      (related (step i s) (step' i t) ↔ condition s i)) :
    (∀ first rest, steps = first ++ rest →
        related (stateAfter step s first) (stateAfter step' t first)) ↔
      Meets step condition s steps := by
  induction steps generalizing s t with
  | nil =>
      refine iff_of_true (fun first rest split => ?_) trivial
      obtain ⟨rfl, -⟩ := List.append_eq_nil_iff.mp split.symm
      exact holds
  | cons i steps ih =>
      have here := one s t i initially holds
      constructor
      · intro every
        have next : related (step i s) (step' i t) := every [i] steps rfl
        refine ⟨here.mp next, (ih (kept s i initially) next).mp fun first rest split => ?_⟩
        exact every (i :: first) rest (by rw [split]; rfl)
      · rintro ⟨met, later⟩ first rest split
        have next := here.mpr met
        cases first with
        | nil => exact holds
        | cons j first =>
            obtain ⟨rfl, behind⟩ := List.cons.inj split
            exact (ih (kept s i initially) next).mpr later first rest behind

/-- A property that a step keeps exactly under the condition holds in every state of a run exactly
when all steps of the run meet it. -/
theorem everywhere_iff_meets {condition : σ → ι → Prop} (invariant property : σ → Prop) {s : σ}
    {steps : List ι} (initially : invariant s) (holds : property s)
    (kept : ∀ t i, invariant t → invariant (step i t))
    (one : ∀ t i, invariant t → property t → (property (step i t) ↔ condition t i)) :
    (∀ first rest, steps = first ++ rest → property (stateAfter step s first)) ↔
      Meets step condition s steps := by
  -- beside a system that does nothing
  let idle (_ : ι) (_ : Unit) : Unit := ()
  let alone (s : σ) (_ : Unit) : Prop := property s
  exact @related_iff_meets σ ι step Unit idle condition invariant alone s () steps initially holds kept
    fun s _ i => one s i

end Simulations

section Views

variable {τ κ : Type} {step' : κ → τ → τ} (view : σ → τ) {rename : ι → κ}

/-- A view of the states that follows the steps follows whole runs. -/
theorem stateAfter_map (commutes : ∀ s i, view (step i s) = step' (rename i) (view s)) (s : σ)
    (steps : List ι) :
    view (stateAfter step s steps) = stateAfter step' (view s) (steps.map rename) := by
  induction steps generalizing s with
  | nil => rfl
  | cons i steps ih =>
      change view (stateAfter step (step i s) steps) =
        stateAfter step' (step' (rename i) (view s)) (steps.map rename)
      rw [ih, commutes]

theorem meets_map (commutes : ∀ s i, view (step i s) = step' (rename i) (view s))
    {condition : σ → ι → Prop} {condition' : τ → κ → Prop}
    (agree : ∀ s i, condition s i ↔ condition' (view s) (rename i)) {s : σ} {steps : List ι} :
    Meets step condition s steps ↔ Meets step' condition' (view s) (steps.map rename) := by
  induction steps generalizing s with
  | nil => exact Iff.rfl
  | cons i steps ih =>
      rw [Meets, List.map_cons, Meets, ih, agree, commutes]

end Views

section Observations

variable {α : Type} (observe : σ → α)

/-- Between any two states that a run passes through, the observation does not decrease. -/
def Ascends [LE α] (step : ι → σ → σ) (s : σ) (steps : List ι) : Prop :=
  ∀ first mid last, steps = first ++ mid ++ last →
    observe (stateAfter step s first) ≤ observe (stateAfter step s (first ++ mid))

variable {observe} [Preorder α] {s : σ}

theorem ascends_nil : Ascends observe step s [] := by
  intro first mid last split
  obtain ⟨both, -⟩ := List.append_eq_nil_iff.mp split.symm
  obtain ⟨rfl, rfl⟩ := List.append_eq_nil_iff.mp both
  exact le_rfl

theorem ascends_cons {i : ι} {steps : List ι} :
    Ascends observe step s (i :: steps) ↔
      observe s ≤ observe (step i s) ∧ Ascends observe step (step i s) steps := by
  constructor
  · intro ascends
    refine ⟨ascends [] [i] steps rfl, fun first mid last split => ?_⟩
    exact ascends (i :: first) mid last (by rw [split]; rfl)
  · rintro ⟨here, later⟩ first mid last split
    cases first with
    | nil =>
        cases mid with
        | nil => exact le_rfl
        | cons j mid =>
            obtain ⟨rfl, rest⟩ := List.cons.inj split
            exact here.trans (later [] mid last rest)
    | cons j first =>
        obtain ⟨rfl, rest⟩ := List.cons.inj split
        exact later first mid last rest

end Observations

section Paths

variable {edge edge' : σ → σ → Prop}

/-- A list of moves along edges, each of which starts where the one before it has ended. -/
inductive Path (edge : σ → σ → Prop) : σ → List (σ × σ) → σ → Prop
  | nil (s : σ) : Path edge s [] s
  | cons {s t u : σ} {way : List (σ × σ)} : edge s t → Path edge t way u →
      Path edge s ((s, t) :: way) u

theorem Path.append {s t u : σ} {first rest : List (σ × σ)} (begun : Path edge s first t)
    (goes : Path edge t rest u) : Path edge s (first ++ rest) u := by
  induction begun with
  | nil s => exact goes
  | cons moves _ ih => exact .cons moves (ih goes)

theorem Path.single {s t : σ} (moves : edge s t) : Path edge s [(s, t)] t :=
  .cons moves (.nil t)

end Paths

end AeronClusterClient.Lib.Runs
