/- module: AeronClusterClient/Lib/KeyedTable
   generality: any rows, any keys, any notion of what a row is about
   digest: Tables that file each row under a key computed from it, and the maps they stand for. -/

import AeronClusterClient.Lib.Runs
import AeronClusterClient.Lib.Unordered
import Mathlib.Logic.Function.Basic

/-!
A hash map is often keyed by a text put together from the parts of its rows,
although what its users mean is a map from the parts themselves. The table then
stands for that map as long as no two subjects that it has to keep apart have
the same key.
-/

set_option autoImplicit false
set_option relaxedAutoImplicit false

namespace AeronClusterClient.Lib.KeyedTable

open Lib.Runs Lib.Unordered

variable {κ ρ ι : Type}

def rows (table : AList (fun _ : κ => ρ)) : List ρ := table.entries.map Sigma.snd

/-- Every row is filed under its own key. -/
def Filed (key : ρ → κ) (table : AList (fun _ : κ => ρ)) : Prop :=
  ∀ e ∈ table.entries, e.1 = key e.2

section Rows

variable {key : ρ → κ} {table : AList (fun _ : κ => ρ)} {row r : ρ}

theorem mem_rows : r ∈ rows table ↔ ∃ e ∈ table.entries, e.2 = r := List.mem_map

theorem filed_empty (key : ρ → κ) : Filed key (∅ : AList (fun _ : κ => ρ)) := by
  intro e entry
  cases entry

theorem filed_eraseIf (filed : Filed key table) (p : ∀ _ : κ, ρ → Bool) :
    Filed key (eraseIf p table) := by
  intro e entry
  exact filed e (mem_entries_eraseIf.mp entry).1

theorem mem_rows_eraseIf {p : ρ → Bool} :
    r ∈ rows (eraseIf (fun _ => p) table) ↔ r ∈ rows table ∧ p r = false := by
  simp only [mem_rows, mem_entries_eraseIf]
  constructor
  · rintro ⟨e, ⟨entry, kept⟩, rfl⟩
    exact ⟨⟨e, entry, rfl⟩, kept⟩
  · rintro ⟨⟨e, entry, rfl⟩, kept⟩
    exact ⟨e, ⟨entry, kept⟩, rfl⟩

theorem nodup_rows (filed : Filed key table) : (rows table).Nodup := by
  have keys : ((rows table).map key).Nodup := by
    have same : (rows table).map key = table.keys := by
      unfold rows AList.keys List.keys
      rw [List.map_map]
      apply List.map_congr_left
      intro e entry
      exact (filed e entry).symm
    rw [same]
    exact table.keys_nodup
  exact keys.of_map

variable [DecidableEq κ]

theorem filed_insert (filed : Filed key table) (row : ρ) :
    Filed key (table.insert (key row) row) := by
  intro e entry
  rcases mem_entries_insert.mp entry with rfl | ⟨old, -⟩
  · rfl
  · exact filed e old

theorem mem_rows_insert (filed : Filed key table) :
    r ∈ rows (table.insert (key row) row) ↔ r = row ∨ r ∈ rows table ∧ key r ≠ key row := by
  simp only [mem_rows, mem_entries_insert]
  constructor
  · rintro ⟨e, rfl | ⟨entry, other⟩, rfl⟩
    · exact .inl rfl
    · rw [filed e entry] at other
      exact .inr ⟨⟨e, entry, rfl⟩, other⟩
  · rintro (rfl | ⟨⟨e, entry, rfl⟩, other⟩)
    · exact ⟨_, .inl rfl, rfl⟩
    · rw [← filed e entry] at other
      exact ⟨e, .inr ⟨entry, other⟩, rfl⟩

end Rows

section Represents

variable (ident : ρ → ι)

/-- The table holds exactly the rows of the map, each for its own subject. -/
def Represents (table : AList (fun _ : κ => ρ)) (live : ι → Option ρ) : Prop :=
  ∀ r, r ∈ rows table ↔ live (ident r) = some r

variable {ident} {key : ρ → κ} {table : AList (fun _ : κ => ρ)} {live : ι → Option ρ} {row : ρ}

theorem represents_empty : Represents ident (∅ : AList (fun _ : κ => ρ)) fun _ => none := by
  intro r
  simp [rows]

theorem filter_rows [DecidableEq ι] (filed : Filed key table)
    (represents : Represents ident table live) (i : ι) (about : ∀ r, live i = some r → ident r = i) :
    (rows table).filter (fun r => ident r = i) = (live i).toList := by
  have among (r : ρ) : r ∈ (rows table).filter (fun r => ident r = i) ↔ live i = some r := by
    rw [List.mem_filter, represents r, decide_eq_true_iff]
    constructor
    · rintro ⟨found, rfl⟩
      exact found
    · intro found
      have same := about r found
      exact ⟨by rw [same, found], same⟩
  have distinct : ((rows table).filter (fun r => ident r = i)).Nodup := (nodup_rows filed).filter _
  cases found : live i with
  | none =>
      apply List.eq_nil_iff_forall_not_mem.mpr
      intro r there
      have one := (among r).mp there
      rw [found] at one
      cases one
  | some r =>
      refine List.perm_singleton.mp ?_
      rw [List.perm_ext_iff_of_nodup distinct (List.nodup_singleton r)]
      intro s
      rw [among, found, List.mem_singleton, Option.some_inj, eq_comm]

theorem represents_eraseIf (represents : Represents ident table live) (p : ρ → Bool) :
    Represents ident (eraseIf (fun _ => p) table) fun i => (live i).filter (fun r => !p r) := by
  intro r
  rw [mem_rows_eraseIf, represents r, Option.filter_eq_some_iff]
  simp

variable [DecidableEq κ] [DecidableEq ι]

/-- No row of another subject is filed under the key of the new one. -/
def Apart (key : ρ → κ) (ident : ρ → ι) (table : AList (fun _ : κ => ρ)) (row : ρ) : Prop :=
  ∀ r ∈ rows table, key r = key row → ident r = ident row

/-- An insertion is an update of the map exactly when it replaces no row of another subject. -/
theorem represents_insert_iff (filed : Filed key table)
    (coarser : ∀ r, ident r = ident row → key r = key row)
    (represents : Represents ident table live) :
    Represents ident (table.insert (key row) row) (Function.update live (ident row) (some row)) ↔
      Apart key ident table row := by
  constructor
  · intro updated r among same
    by_contra other
    have kept : Function.update live (ident row) (some row) (ident r) = some r := by
      rw [Function.update_of_ne other]
      exact (represents r).mp among
    rcases (mem_rows_insert filed).mp ((updated r).mpr kept) with rfl | ⟨-, differs⟩
    · exact other rfl
    · exact differs same
  · intro apart r
    rw [mem_rows_insert filed]
    by_cases subject : ident r = ident row
    · rw [subject, Function.update_self, Option.some_inj]
      constructor
      · rintro (rfl | ⟨-, differs⟩)
        · rfl
        · exact absurd (coarser r subject) differs
      · intro same
        exact .inl same.symm
    · rw [Function.update_of_ne subject, ← represents r]
      constructor
      · rintro (rfl | ⟨among, -⟩)
        · exact absurd rfl subject
        · exact among
      · intro among
        exact .inr ⟨among, fun same => subject (apart r among same)⟩

end Represents

section Histories

variable [DecidableEq κ] [DecidableEq ι] (key : ρ → κ) (ident : ρ → ι)

/-- What is done to a table: a row is stored under its key, or some rows are erased. -/
inductive Change (ρ : Type)
  | put (row : ρ)
  | drop (p : ρ → Bool)

def change : Change ρ → AList (fun _ : κ => ρ) → AList (fun _ : κ => ρ)
  | .put row, table => table.insert (key row) row
  | .drop p, table => eraseIf (fun _ => p) table

/-- What is meant by it, for the map from subjects. -/
def meant : Change ρ → (ι → Option ρ) → ι → Option ρ
  | .put row, live => Function.update live (ident row) (some row)
  | .drop p, live => fun i => (live i).filter (fun r => !p r)

/-- A row that is put replaces no row of another subject. -/
def KeepsApart (table : AList (fun _ : κ => ρ)) : Change ρ → Prop
  | .put row => Apart key ident table row
  | .drop _ => True

variable {key ident}

theorem filed_change {table : AList (fun _ : κ => ρ)} (filed : Filed key table) (made : Change ρ) :
    Filed key (change key made table) := by
  cases made with
  | put row => exact filed_insert filed row
  | drop p => exact filed_eraseIf filed _

theorem represents_change_iff (coarser : ∀ r s, ident r = ident s → key r = key s)
    {table : AList (fun _ : κ => ρ)} {live : ι → Option ρ} (filed : Filed key table)
    (represents : Represents ident table live) (made : Change ρ) :
    Represents ident (change key made table) (meant ident made live) ↔
      KeepsApart key ident table made := by
  cases made with
  | put row => exact represents_insert_iff filed (fun r => coarser r row) represents
  | drop p => exact iff_of_true (represents_eraseIf represents p) trivial

/-- Along a whole history a table stands for the map that is meant exactly when no change puts a row
in the place of one of another subject. -/
theorem represents_iff_meets (coarser : ∀ r s, ident r = ident s → key r = key s)
    {table : AList (fun _ : κ => ρ)} {live : ι → Option ρ} (filed : Filed key table)
    (represents : Represents ident table live) (changes : List (Change ρ)) :
    (∀ first rest, changes = first ++ rest →
        Represents ident (stateAfter (change key) table first) (stateAfter (meant ident) live first)) ↔
      Meets (change key) (KeepsApart key ident) table changes := by
  refine related_iff_meets (Filed key) (Represents ident) filed represents ?_ ?_
  · exact fun table made filed => filed_change filed made
  · exact fun table live made filed represents => represents_change_iff coarser filed represents made

end Histories

end AeronClusterClient.Lib.KeyedTable
