/- module: AeronClusterClient/Config/PortSearch
   source: src/config.cpp (find_available_port)
   digest: The search for a free port tries every port at most once and misses none. -/

import AeronClusterClient.Config.ResponseChannel
import Mathlib.Data.Finset.Lattice.Fold
import Mathlib.Order.Interval.Finset.Nat

/-!
Ports are drawn at random, and the random engine may draw one again. What the loop
remembers is which ports it has tried: a port counts the first time that it is
drawn, and the first of these that can be bound is the answer.
-/

set_option autoImplicit false
set_option relaxedAutoImplicit false

namespace AeronClusterClient.Config.PortSearch

open Config.ResponseChannel

variable (host : Host) (minPort maxPort : Nat)

/-- No earlier turn has drawn the port of this one. -/
def Fresh (turn : Nat) : Prop :=
  ∀ earlier < turn, host.draw minPort maxPort earlier ≠ host.draw minPort maxPort turn

def AllFailed (turn : Nat) : Prop :=
  ∀ earlier < turn, Fresh host minPort maxPort earlier → host.binds earlier = false

/-- The port of the first try that succeeds, or the failure when every port was tried in vain. -/
def Chosen : Except Failure Nat → Prop
  | .ok port => ∃ turn, host.draw minPort maxPort turn = port ∧ Fresh host minPort maxPort turn ∧
      host.binds turn = true ∧ AllFailed host minPort maxPort turn
  | .error failure => failure = noPortFound minPort maxPort ∧
      ∀ turn, Fresh host minPort maxPort turn → host.binds turn = false

/-- The random engine leaves no port of the range out. -/
def Fair : Prop :=
  ∀ port, minPort ≤ port → port ≤ maxPort → ∃ turn, host.draw minPort maxPort turn = port

structure Searched (turn : Nat) (tried : List Nat) : Prop where
  distinct : tried.Nodup
  mem_iff : ∀ port, port ∈ tried ↔ ∃ earlier < turn, host.draw minPort maxPort earlier = port
  failed : AllFailed host minPort maxPort turn

variable {host minPort maxPort} {turn fuel : Nat} {tried : List Nat}

theorem draw_bounds (ordered : minPort ≤ maxPort) (turn : Nat) :
    minPort ≤ host.draw minPort maxPort turn ∧ host.draw minPort maxPort turn ≤ maxPort := by
  have small : host.draws turn % (maxPort - minPort + 1) < maxPort - minPort + 1 :=
    Nat.mod_lt _ (Nat.succ_pos _)
  unfold Host.draw
  omega

namespace Searched

theorem start : Searched host minPort maxPort 0 [] where
  distinct := List.nodup_nil
  mem_iff port := by simp
  failed earlier before := absurd before (Nat.not_lt_zero _)

theorem fresh_iff (searched : Searched host minPort maxPort turn tried) :
    Fresh host minPort maxPort turn ↔ host.draw minPort maxPort turn ∉ tried := by
  rw [searched.mem_iff]
  simp [Fresh]

theorem again (searched : Searched host minPort maxPort turn tried)
    (known : host.draw minPort maxPort turn ∈ tried) :
    Searched host minPort maxPort (turn + 1) tried where
  distinct := searched.distinct
  mem_iff port := by
    rw [searched.mem_iff]
    constructor
    · rintro ⟨earlier, before, same⟩
      exact ⟨earlier, Nat.lt_succ_of_lt before, same⟩
    · rintro ⟨earlier, before, rfl⟩
      rcases Nat.lt_succ_iff_lt_or_eq.mp before with less | rfl
      · exact ⟨earlier, less, rfl⟩
      · exact (searched.mem_iff _).mp known
  failed earlier before fresh := by
    rcases Nat.lt_succ_iff_lt_or_eq.mp before with less | rfl
    · exact searched.failed earlier less fresh
    · exact absurd known (searched.fresh_iff.mp fresh)

theorem next (searched : Searched host minPort maxPort turn tried)
    (new : host.draw minPort maxPort turn ∉ tried) (lost : host.binds turn = false) :
    Searched host minPort maxPort (turn + 1) (host.draw minPort maxPort turn :: tried) where
  distinct := List.nodup_cons.mpr ⟨new, searched.distinct⟩
  mem_iff port := by
    rw [List.mem_cons, searched.mem_iff]
    constructor
    · rintro (rfl | ⟨earlier, before, same⟩)
      · exact ⟨turn, Nat.lt_succ_self turn, rfl⟩
      · exact ⟨earlier, Nat.lt_succ_of_lt before, same⟩
    · rintro ⟨earlier, before, rfl⟩
      rcases Nat.lt_succ_iff_lt_or_eq.mp before with less | rfl
      · exact .inr ⟨earlier, less, rfl⟩
      · exact .inl rfl
  failed earlier before fresh := by
    rcases Nat.lt_succ_iff_lt_or_eq.mp before with less | rfl
    · exact searched.failed earlier less fresh
    · exact lost

theorem subset (searched : Searched host minPort maxPort turn tried)
    (ordered : minPort ≤ maxPort) : tried.toFinset ⊆ Finset.Icc minPort maxPort := by
  intro port among
  obtain ⟨earlier, -, rfl⟩ := (searched.mem_iff port).mp (List.mem_toFinset.mp among)
  exact Finset.mem_Icc.mpr (draw_bounds ordered earlier)

theorem card_eq (searched : Searched host minPort maxPort turn tried) :
    tried.toFinset.card = tried.length := List.toFinset_card_of_nodup searched.distinct

theorem card_range (ordered : minPort ≤ maxPort) :
    (Finset.Icc minPort maxPort).card = maxPort - minPort + 1 := by
  rw [Nat.card_Icc]
  omega

/-- When as many ports have been tried as there are, none is left. -/
theorem complete (searched : Searched host minPort maxPort turn tried)
    (ordered : minPort ≤ maxPort) (full : ¬ tried.length < maxPort - minPort + 1) (later : Nat) :
    host.draw minPort maxPort later ∈ tried := by
  have all : tried.toFinset = Finset.Icc minPort maxPort := by
    refine Finset.eq_of_subset_of_card_le (searched.subset ordered) ?_
    rw [searched.card_eq, card_range ordered]
    omega
  rw [← List.mem_toFinset, all]
  exact Finset.mem_Icc.mpr (draw_bounds ordered later)

theorem full (searched : Searched host minPort maxPort turn tried) (ordered : minPort ≤ maxPort)
    (drawn : ∀ port ∈ Finset.Icc minPort maxPort,
      ∃ earlier < turn, host.draw minPort maxPort earlier = port) :
    ¬ tried.length < maxPort - minPort + 1 := by
  have all : Finset.Icc minPort maxPort ⊆ tried.toFinset := by
    intro port among
    exact List.mem_toFinset.mpr ((searched.mem_iff port).mpr (drawn port among))
  have enough := Finset.card_le_card all
  rw [searched.card_eq, card_range ordered] at enough
  omega

end Searched

/-- The loop ends with the port of the first try that succeeds, or when none did. -/
theorem chosen_portLoop (searched : Searched host minPort maxPort turn tried)
    (ordered : minPort ≤ maxPort) {result : Except Failure Nat}
    (ends : portLoop host minPort maxPort fuel turn tried = some result) :
    Chosen host minPort maxPort result := by
  induction fuel generalizing turn tried with
  | zero => cases ends
  | succ fuel ih =>
      unfold portLoop at ends
      split at ends
      · dsimp only at ends
        split at ends
        · next known => exact ih (searched.again known) ends
        · next new =>
            split at ends
            · next bound =>
                cases ends
                exact ⟨turn, rfl, searched.fresh_iff.mpr new, bound, searched.failed⟩
            · next lost => exact ih (searched.next new (by simpa using lost)) ends
      · next full =>
          cases ends
          refine ⟨rfl, fun later fresh => ?_⟩
          obtain ⟨earlier, before, same⟩ :=
            (searched.mem_iff _).mp (searched.complete ordered full later)
          -- a fresh turn cannot come after all ports have been tried
          rcases Nat.lt_or_ge later turn with less | beyond
          · exact searched.failed later less fresh
          · exact absurd same (fresh earlier (Nat.lt_of_lt_of_le before beyond))

theorem portLoop_stops (searched : Searched host minPort maxPort turn tried)
    (ordered : minPort ≤ maxPort) {last : Nat}
    (drawn : ∀ port ∈ Finset.Icc minPort maxPort,
      ∃ earlier < last, host.draw minPort maxPort earlier = port)
    (early : turn ≤ last) (enough : last < turn + fuel) :
    (portLoop host minPort maxPort fuel turn tried).isSome := by
  induction fuel generalizing turn tried with
  | zero => omega
  | succ fuel ih =>
      unfold portLoop
      split
      · next room =>
          have before : turn < last := by
            refine Nat.lt_of_le_of_ne early ?_
            rintro rfl
            exact searched.full ordered drawn room
          dsimp only
          split
          · next known => exact ih (searched.again known) before (by omega)
          · next new =>
              split
              · rfl
              · next lost => exact ih (searched.next new (by simpa using lost)) before (by omega)
      · rfl

theorem portLoop_mono {more : Nat} (longer : fuel ≤ more) {result : Except Failure Nat}
    (ends : portLoop host minPort maxPort fuel turn tried = some result) :
    portLoop host minPort maxPort more turn tried = some result := by
  induction fuel generalizing more turn tried with
  | zero => cases ends
  | succ fuel ih =>
      obtain ⟨more, rfl⟩ : ∃ n, more = n + 1 := ⟨more - 1, by omega⟩
      have shorter : fuel ≤ more := by omega
      unfold portLoop at ends ⊢
      split at ends
      · next room =>
          rw [if_pos room]
          dsimp only at ends ⊢
          split at ends
          · next known =>
              rw [if_pos known]
              exact ih shorter ends
          · next new =>
              rw [if_neg new]
              split at ends
              · next bound =>
                  rw [if_pos bound]
                  exact ends
              · next lost =>
                  rw [if_neg lost]
                  exact ih shorter ends
      · next full =>
          rw [if_neg full]
          exact ends

/-- Some turn comes after every port has been drawn. -/
theorem Fair.drawn (fair : Fair host minPort maxPort) : ∃ last,
    ∀ port ∈ Finset.Icc minPort maxPort,
      ∃ earlier < last, host.draw minPort maxPort earlier = port := by
  classical
  choose! turnOf drawn using fun port (inside : minPort ≤ port ∧ port ≤ maxPort) =>
    fair port inside.1 inside.2
  refine ⟨(Finset.Icc minPort maxPort).sup turnOf + 1, fun port inside => ?_⟩
  exact ⟨turnOf port, Nat.lt_succ_of_le (Finset.le_sup inside), drawn port (Finset.mem_Icc.mp inside)⟩

/-- When the random engine leaves no port out, the search comes to an end with one answer: the
port that was the first to be bound when it was first drawn, or, when there is no such port, the
failure that names the range. -/
theorem findAvailablePort_finds (ordered : minPort ≤ maxPort) (fair : Fair host minPort maxPort) :
    ∃ result, Chosen host minPort maxPort result ∧ ∃ enough, ∀ fuel, enough ≤ fuel →
      findAvailablePort host fuel minPort maxPort = some result := by
  obtain ⟨last, drawn⟩ := fair.drawn
  have stops : (portLoop host minPort maxPort (last + 1) 0 []).isSome :=
    portLoop_stops .start ordered drawn (Nat.zero_le _) (by omega)
  obtain ⟨result, ends⟩ := Option.isSome_iff_exists.mp stops
  exact ⟨result, chosen_portLoop .start ordered ends, last + 1,
    fun fuel longer => portLoop_mono longer ends⟩

/-- A machine that draws each port twice, and on which only the third can be bound. -/
def threePorts : Host where
  interfaces := none
  draws turn := turn / 2
  binds turn := turn == 4

theorem findAvailablePort_finds_sample : ∃ result, Chosen threePorts 40000 40002 result ∧
    ∃ enough, ∀ fuel, enough ≤ fuel → findAvailablePort threePorts fuel 40000 40002 = some result :=
  findAvailablePort_finds (by decide) fun port low high =>
    ⟨2 * (port - 40000), by
      unfold Host.draw threePorts
      dsimp only
      omega⟩

end AeronClusterClient.Config.PortSearch
