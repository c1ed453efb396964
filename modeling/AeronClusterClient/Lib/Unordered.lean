/- module: AeronClusterClient/Lib/Unordered
   generality: any element type with decidable equality
   digest: Hash containers as finite sets and finite maps with an arbitrary iteration order. -/

import Mathlib.Data.Finset.Card
import Mathlib.Data.List.AList
import Mathlib.Data.List.Sort

/-!
A hash container promises nothing about the order in which it enumerates its
elements. A set is therefore a `Finset`, a map an association list with
distinct keys, and every loop over one of them takes an `Enumeration`: some
repetition-free listing of each finite set. What holds for every enumeration
holds for every order the container may use.
-/

set_option autoImplicit false
set_option relaxedAutoImplicit false

namespace AeronClusterClient.Lib.Unordered

universe u v

variable {α : Type u}

/-- An order in which a hash container may enumerate its elements. -/
structure Enumeration (α : Type u) where
  list : Finset α → List α
  nodup : ∀ s, (list s).Nodup
  mem_list : ∀ s a, a ∈ list s ↔ a ∈ s

namespace Enumeration

section Sorted

variable {β : Type v} [LinearOrder β] (key : α → β)

private def sortByKey (l : List α) : List α := l.insertionSort (fun a b => key a ≤ key b)

private theorem sortByKey_perm (l : List α) : (sortByKey key l).Perm l :=
  List.perm_insertionSort _ l

private theorem sortByKey_eq (injective : Function.Injective key) {l m : List α} (same : l.Perm m) :
    sortByKey key l = sortByKey key m := by
  have total : Std.Total (fun a b => key a ≤ key b) := ⟨fun a b => le_total _ _⟩
  have trans : IsTrans α (fun a b => key a ≤ key b) := ⟨fun _ _ _ => le_trans⟩
  have antisymm : Std.Antisymm (fun a b => key a ≤ key b) :=
    ⟨fun _ _ ab ba => injective (le_antisymm ab ba)⟩
  refine List.Perm.eq_of_pairwise' (r := fun a b => key a ≤ key b) ?_ ?_ ?_
  · exact List.pairwise_insertionSort _ l
  · exact List.pairwise_insertionSort _ m
  · exact (sortByKey_perm key l).trans (same.trans (sortByKey_perm key m).symm)

def sortedBy (injective : Function.Injective key) : Enumeration α where
  list s := Quot.liftOn s.val (sortByKey key) fun _ _ same => sortByKey_eq key injective same
  nodup s := by
    obtain ⟨⟨l⟩, nodup⟩ := s
    exact ((sortByKey_perm key l).nodup_iff).mpr nodup
  mem_list s a := by
    obtain ⟨⟨l⟩, nodup⟩ := s
    exact (sortByKey_perm key l).mem_iff

end Sorted

variable (order : Enumeration α) (s : Finset α)

/-- The element an iterator at `begin()` points to, if there is one. -/
def begin : Option α := (order.list s).head?

variable [DecidableEq α]

/-- The elements the first `n` steps of an iteration visit. -/
def front (n : Nat) : Finset α := ((order.list s).take n).toFinset

/-- The enumeration that visits one element first and then all others in their order. -/
def startingAt (a : α) : Enumeration α where
  list s := if a ∈ s then a :: (order.list s).erase a else order.list s
  nodup s := by
    split
    · exact List.nodup_cons.mpr ⟨(order.nodup s).not_mem_erase, (order.nodup s).erase a⟩
    · exact order.nodup s
  mem_list s b := by
    split
    · rename_i here
      by_cases same : b = a
      · simp [same, here]
      · simp [same, List.mem_erase_of_ne same, order.mem_list]
    · exact order.mem_list s b

theorem mem_front_startingAt {a : α} {s : Finset α} {n : Nat} (here : a ∈ s) (some : 0 < n) :
    a ∈ (order.startingAt a).front s n := by
  obtain ⟨n, rfl⟩ := Nat.exists_eq_succ_of_ne_zero (Nat.pos_iff_ne_zero.mp some)
  simp [front, startingAt, here]

end Enumeration

section Maps

variable {β : α → Type v}

/-- Erase every entry of a map that satisfies a predicate, as an erasing iteration does. -/
def eraseIf (p : ∀ a, β a → Bool) (m : AList β) : AList β where
  entries := m.entries.filter (fun e => !p e.1 e.2)
  nodupKeys := m.nodupKeys.sublist List.filter_sublist

theorem mem_entries_eraseIf {p : ∀ a, β a → Bool} {m : AList β} {e : Sigma β} :
    e ∈ (eraseIf p m).entries ↔ e ∈ m.entries ∧ p e.1 e.2 = false := by
  simp [eraseIf]

variable [DecidableEq α]

theorem mem_entries_insert {m : AList β} {a : α} {b : β a} {e : Sigma β} :
    e ∈ (m.insert a b).entries ↔ e = ⟨a, b⟩ ∨ e ∈ m.entries ∧ e.1 ≠ a := by
  obtain ⟨a', b'⟩ := e
  rw [← AList.mem_lookup_iff, ← AList.mem_lookup_iff]
  by_cases same : a' = a
  · subst same
    rw [AList.lookup_insert]
    constructor
    · intro h
      exact Or.inl (by rw [Option.mem_some_iff.mp h])
    · rintro (h | h)
      · exact Option.mem_some_iff.mpr (eq_of_heq (Sigma.mk.inj h).2).symm
      · exact absurd rfl h.2
  · rw [AList.lookup_insert_ne same]
    constructor
    · exact fun h => Or.inr ⟨h, same⟩
    · rintro (h | h)
      · exact absurd (Sigma.mk.inj h).1 same
      · exact h.1

end Maps

end AeronClusterClient.Lib.Unordered
