/- module: AeronClusterClient/Lib/FirstMatch
   generality: any rows, any keys
   digest: Lists of rows that are searched from the front, and the maps they stand for. -/

import AeronClusterClient.Lib.Runs
import Mathlib.Data.List.Induction
import Mathlib.Data.List.Nodup
import Mathlib.Logic.Function.Basic

/-!
A short table is often kept as a list: a search takes the first row with the key
that is asked for, a write replaces that row or goes to the end, a removal drops
that row alone. As long as no key occurs twice the list is a map.
-/

set_option autoImplicit false
set_option relaxedAutoImplicit false

namespace AeronClusterClient.Lib.FirstMatch

open Lib.Runs

variable {κ ρ : Type} [DecidableEq κ] (key : ρ → κ)

def lookup (rows : List ρ) (k : κ) : Option ρ := rows.find? fun r => key r = k

/-- The first row with the key of the new one is replaced by it. -/
def replaceFirst (row : ρ) (rows : List ρ) : List ρ :=
  rows.replaceF fun r => if key r = key row then some row else none

/-- The new row takes the place of the first one with its key, or goes to the end. -/
def put (row : ρ) (rows : List ρ) : List ρ :=
  if (lookup key rows (key row)).isSome then replaceFirst key row rows else rows ++ [row]

def drop (k : κ) (rows : List ρ) : List ρ := rows.eraseP fun r => key r = k

def Distinct (rows : List ρ) : Prop := (rows.map key).Nodup

variable {key} {row : ρ} {rows : List ρ} {k : κ}

section Rows

theorem lookup_cons :
    lookup key (row :: rows) k = if key row = k then some row else lookup key rows k := by
  by_cases same : key row = k <;> simp [lookup, same]

theorem lookup_eq_none_iff : lookup key rows k = none ↔ k ∉ rows.map key := by
  simp [lookup, List.find?_eq_none]

theorem isSome_lookup_iff : (lookup key rows k).isSome ↔ k ∈ rows.map key := by
  rw [Option.isSome_iff_ne_none, ne_eq, lookup_eq_none_iff, not_not]

theorem replaceFirst_cons (other : ρ) :
    replaceFirst key row (other :: rows) =
      if key other = key row then row :: rows else other :: replaceFirst key row rows := by
  by_cases same : key other = key row <;> simp [replaceFirst, same]

theorem keys_replaceFirst : (replaceFirst key row rows).map key = rows.map key := by
  induction rows with
  | nil => rfl
  | cons other rows ih =>
      rw [replaceFirst_cons]
      by_cases same : key other = key row
      · simp [same]
      · simp [same, ih]

theorem lookup_replaceFirst (present : key row ∈ rows.map key) :
    lookup key (replaceFirst key row rows) k =
      if key row = k then some row else lookup key rows k := by
  induction rows with
  | nil => cases present
  | cons other rows ih =>
      rw [replaceFirst_cons]
      by_cases same : key other = key row
      · rw [if_pos same, lookup_cons, lookup_cons, same]
        split <;> rfl
      · have later : key row ∈ rows.map key := by
          rcases List.mem_cons.mp present with here | later
          · exact absurd here.symm same
          · exact later
        rw [if_neg same, lookup_cons, lookup_cons, ih later]
        by_cases asked : key other = k
        · have differs : key row ≠ k := fun here => same (asked.trans here.symm)
          rw [if_pos asked, if_pos asked, if_neg differs]
        · rw [if_neg asked, if_neg asked]

theorem lookup_put :
    lookup key (put key row rows) k = if key row = k then some row else lookup key rows k := by
  unfold put
  split
  · next present => exact lookup_replaceFirst (isSome_lookup_iff.mp present)
  · next absent =>
      have missing : lookup key rows (key row) = none := by simpa using absent
      unfold lookup at missing ⊢
      rw [List.find?_append]
      by_cases asked : key row = k
      · subst asked
        rw [missing]
        simp
      · simp [asked]

theorem distinct_put (distinct : Distinct key rows) : Distinct key (put key row rows) := by
  unfold put
  split
  · unfold Distinct
    rw [keys_replaceFirst]
    exact distinct
  · next absent =>
      have missing : key row ∉ rows.map key := fun there => absent (isSome_lookup_iff.mpr there)
      have grown : (rows.map key ++ [key row]).Nodup :=
        distinct.append (List.nodup_singleton _) (by simpa using missing)
      simpa [Distinct] using grown

theorem drop_cons (other : ρ) :
    drop key k (other :: rows) = if key other = k then rows else other :: drop key k rows := by
  by_cases same : key other = k <;> simp [drop, same]

theorem distinct_drop (distinct : Distinct key rows) : Distinct key (drop key k rows) :=
  distinct.sublist (List.eraseP_sublist.map key)

/-- A removal takes the whole key away only because the key occurs once. -/
theorem lookup_drop (distinct : Distinct key rows) {l : κ} :
    lookup key (drop key k rows) l = if k = l then none else lookup key rows l := by
  induction rows with
  | nil => simp [drop, lookup]
  | cons other rows ih =>
      obtain ⟨alone, rest⟩ := List.nodup_cons.mp distinct
      rw [drop_cons]
      by_cases same : key other = k
      · subst same
        rw [if_pos rfl, lookup_cons]
        by_cases asked : key other = l
        · rw [if_pos asked, ← asked]
          exact lookup_eq_none_iff.mpr alone
        · rw [if_neg asked, if_neg asked]
      · rw [if_neg same, lookup_cons, lookup_cons, ih rest]
        by_cases asked : key other = l
        · have differs : k ≠ l := fun here => same (asked.trans here.symm)
          rw [if_pos asked, if_pos asked, if_neg differs]
        · rw [if_neg asked, if_neg asked]

end Rows

section Histories

/-- What is done to a table. -/
inductive Change (κ ρ : Type)
  | put (row : ρ)
  | drop (k : κ)

def Change.about (key : ρ → κ) : Change κ ρ → κ
  | .put row => key row
  | .drop k => k

variable (key)

def change : Change κ ρ → List ρ → List ρ
  | .put row => put key row
  | .drop k => drop key k

/-- What is meant by it, for a map. -/
def meant : Change κ ρ → (κ → Option ρ) → κ → Option ρ
  | .put row, live => Function.update live (key row) (some row)
  | .drop k, live => Function.update live k none

/-- The list is the map. -/
structure Represents (rows : List ρ) (live : κ → Option ρ) : Prop where
  distinct : Distinct key rows
  agrees : ∀ k, lookup key rows k = live k

variable {key} {live : κ → Option ρ}

theorem represents_nil : Represents key [] fun _ => none :=
  ⟨List.nodup_nil, fun _ => rfl⟩

theorem represents_change (represents : Represents key rows live) (made : Change κ ρ) :
    Represents key (change key made rows) (meant key made live) := by
  cases made with
  | put row =>
      refine ⟨distinct_put represents.distinct, fun k => ?_⟩
      rw [change, lookup_put, represents.agrees, meant, Function.update_apply]
      simp only [eq_comm]
  | drop l =>
      refine ⟨distinct_drop represents.distinct, fun k => ?_⟩
      rw [change, lookup_drop represents.distinct, represents.agrees, meant, Function.update_apply]
      simp only [eq_comm]

/-- Along every history the list stays the map that is meant. -/
theorem represents_stateAfter (represents : Represents key rows live) (changes : List (Change κ ρ)) :
    Represents key (stateAfter (change key) rows changes) (stateAfter (meant key) live changes) :=
  related_of_steps (Represents key) represents fun _ _ made represents =>
    represents_change represents made

theorem meant_of_other {made : Change κ ρ} (other : made.about key ≠ k) :
    meant key made live k = live k := by
  cases made with
  | put row => exact Function.update_of_ne (Ne.symm other) _ _
  | drop l => exact Function.update_of_ne (Ne.symm other) _ _

theorem append_singleton_eq_append_cons {α : Type} {a b : α} {l first rest : List α} :
    l ++ [a] = first ++ b :: rest ↔
      (rest = [] ∧ l = first ∧ a = b) ∨ ∃ mid, rest = mid ++ [a] ∧ l = first ++ b :: mid := by
  constructor
  · intro split
    rcases rest.eq_nil_or_concat' with rfl | ⟨mid, c, rfl⟩
    · obtain ⟨rfl, same⟩ := List.append_inj' split rfl
      exact .inl ⟨rfl, rfl, List.singleton_inj.mp same⟩
    · rw [← List.cons_append, ← List.append_assoc] at split
      obtain ⟨before, same⟩ := List.append_inj' split rfl
      obtain rfl := List.singleton_inj.mp same
      exact .inr ⟨mid, rfl, before⟩
  · rintro (⟨rfl, rfl, rfl⟩ | ⟨mid, rfl, rfl⟩)
    · rfl
    · rw [List.append_assoc, List.cons_append]

/-- The row of a key is the one that was put last, unless the key was dropped since. -/
theorem meant_eq_some_iff (changes : List (Change κ ρ)) :
    stateAfter (meant key) (fun _ => none) changes k = some row ↔
      ∃ first rest, changes = first ++ .put row :: rest ∧ key row = k ∧
        ∀ made ∈ rest, made.about key ≠ k := by
  induction changes using List.reverseRecOn with
  | nil => simp [stateAfter]
  | append_singleton changes last ih =>
      rw [stateAfter_append]
      simp only [append_singleton_eq_append_cons]
      by_cases touched : last.about key = k
      · -- the last change decides alone
        have decides :
            stateAfter (meant key) (stateAfter (meant key) (fun _ => none) changes) [last] k =
              some row ↔ last = .put row := by
          cases last with
          | put written =>
              obtain rfl : key written = k := touched
              simp [stateAfter, meant]
          | drop l =>
              obtain rfl : l = k := touched
              simp [stateAfter, meant]
        rw [decides]
        constructor
        · rintro rfl
          exact ⟨changes, [], .inl ⟨rfl, rfl, rfl⟩, touched, by simp⟩
        · rintro ⟨first, rest, ⟨-, -, same⟩ | ⟨mid, rfl, -⟩, -, untouched⟩
          · exact same
          · exact absurd touched (untouched last (by simp))
      · have kept : stateAfter (meant key) (stateAfter (meant key) (fun _ => none) changes) [last] k =
            stateAfter (meant key) (fun _ => none) changes k := meant_of_other touched
        rw [kept, ih]
        constructor
        · rintro ⟨first, mid, before, named, untouched⟩
          refine ⟨first, mid ++ [last], .inr ⟨mid, rfl, before⟩, named, fun made among => ?_⟩
          rcases List.mem_append.mp among with earlier | here
          · exact untouched made earlier
          · rwa [List.mem_singleton.mp here]
        · rintro ⟨first, rest, ⟨-, -, rfl⟩ | ⟨mid, rfl, before⟩, named, untouched⟩
          · exact absurd named touched
          · exact ⟨first, mid, before, named, fun made among => untouched made (by simp [among])⟩

end Histories

end AeronClusterClient.Lib.FirstMatch
