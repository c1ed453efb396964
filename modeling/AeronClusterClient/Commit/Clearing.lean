/- module: AeronClusterClient/Commit/Clearing
   source: src/commit_manager.cpp (clear_commits), include/aeron_cluster/commit_manager.hpp
   digest: When clearing the commits of a topic clears these and no others. -/

import AeronClusterClient.Commit.Store
import AeronClusterClient.Lib.KeyedTable

/-!
A commit is stored under its topic, a colon and its identifier, and cleared
under its topic alone. The key of a commit is longer than its topic, so what is
erased is never a commit of the topic that is cleared.
-/

set_option autoImplicit false
set_option relaxedAutoImplicit false

namespace AeronClusterClient.Commit.Clearing

open Lib.Runs Lib.KeyedTable Lib.Unordered Commit.Manager Commit.Store
open Text (StdString ascii)

inductive Call
  | commitMessage (offset : CommitOffset)
  | clearCommits (topic : StdString)
  | clearAllCommits

def call : Call → CommitManager → CommitManager
  | .commitMessage offset, manager => manager.commitMessage offset
  | .clearCommits topic, manager => manager.clearCommits topic
  | .clearAllCommits, manager => manager.clearAllCommits

def stored (calls : List Call) : CommitManager := stateAfter call {} calls

/-- Afterwards no commit of the topic is left, and every other topic has the commits it had. -/
def ClearsExactly (manager : CommitManager) (topic : StdString) : Prop :=
  (∀ messageIdentifier, (manager.clearCommits topic).getLastCommit topic messageIdentifier = none) ∧
    ∀ other messageIdentifier, other ≠ topic →
      (manager.clearCommits topic).getLastCommit other messageIdentifier =
        manager.getLastCommit other messageIdentifier

/-- The topic has no commit, and no commit is stored under the text of the topic. -/
def NothingToClear (manager : CommitManager) (topic : StdString) : Prop :=
  (∀ messageIdentifier, manager.getLastCommit topic messageIdentifier = none) ∧
    topic ∉ manager.commits

section Keys

def keyOf (offset : CommitOffset) : StdString := commitKey offset.topic offset.messageIdentifier

theorem ne_commitKey (topic messageIdentifier : StdString) : commitKey topic messageIdentifier ≠ topic := by
  intro same
  have longer := congrArg List.length same
  rw [commitKey_eq] at longer
  simp at longer

theorem filed_erase {table : AList (fun _ : StdString => CommitOffset)} (filed : Filed keyOf table)
    (key : StdString) : Filed keyOf (table.erase key) := by
  intro e entry
  exact filed e ((List.kerase_sublist key table.entries).subset entry)

theorem filed_stored (calls : List Call) : Filed keyOf (stored calls).commits := by
  refine invariant_of_steps (fun manager : CommitManager => Filed keyOf manager.commits)
    (filed_empty keyOf) fun manager made filed => ?_
  cases made with
  | commitMessage offset => exact filed_insert filed offset
  | clearCommits topic => exact filed_erase filed topic
  | clearAllCommits => exact filed_empty keyOf

/-- What is stored under a key is found under the topic and the identifier it was committed with. -/
theorem getLastCommit_of_lookup {manager : CommitManager} (filed : Filed keyOf manager.commits)
    {key : StdString} {offset : CommitOffset} (found : manager.commits.lookup key = some offset) :
    commitKey offset.topic offset.messageIdentifier = key ∧
      manager.getLastCommit offset.topic offset.messageIdentifier = some offset := by
  have own : key = keyOf offset := filed ⟨key, offset⟩ (AList.mem_lookup_iff.mp found)
  subst own
  exact ⟨rfl, found⟩

end Keys

/-- Whatever the calls before, clearing a topic does what it is for exactly when there is nothing to
clear. -/
theorem clears_exactly_iff (calls : List Call) (topic : StdString) :
    ClearsExactly (stored calls) topic ↔ NothingToClear (stored calls) topic := by
  have own (messageIdentifier : StdString) :
      ((stored calls).clearCommits topic).getLastCommit topic messageIdentifier =
        (stored calls).getLastCommit topic messageIdentifier :=
    CommitManager.getLastCommit_clearCommits_of_ne _ (ne_commitKey topic messageIdentifier)
  constructor
  · rintro ⟨cleared, others⟩
    refine ⟨fun messageIdentifier => ?_, fun present => ?_⟩
    · rw [← own]
      exact cleared messageIdentifier
    · -- A commit under the text of the topic belongs to a shorter topic and is lost.
      obtain ⟨offset, found⟩ := Option.isSome_iff_exists.mp (AList.lookup_isSome.mpr present)
      obtain ⟨key, committed⟩ := getLastCommit_of_lookup (filed_stored calls) found
      have other : offset.topic ≠ topic := by
        intro same
        rw [same] at key
        exact ne_commitKey _ _ key
      have kept := others offset.topic offset.messageIdentifier other
      rw [committed, CommitManager.getLastCommit_clearCommits_of_eq _ key] at kept
      cases kept
  · rintro ⟨none, absent⟩
    refine ⟨fun messageIdentifier => ?_, fun other messageIdentifier _ => ?_⟩
    · rw [own]
      exact none messageIdentifier
    · by_cases key : commitKey other messageIdentifier = topic
      · rw [CommitManager.getLastCommit_clearCommits_of_eq _ key]
        have missing := AList.lookup_eq_none.mpr absent
        rw [← key] at missing
        exact missing.symm
      · exact CommitManager.getLastCommit_clearCommits_of_ne _ key

section Sample

/-- The commit of the topic `orders` survives that the topic is cleared. -/
theorem clearing_keeps_commit :
    ¬ ∀ (calls : List Call) (topic : StdString), ClearsExactly (stored calls) topic := by
  intro claim
  have cleared := (claim [.commitMessage ⟨ascii "orders", ascii "sub", ascii "m1", 1000, 1⟩]
    (ascii "orders")).1 (ascii "sub")
  exact absurd cleared (by decide)

end Sample

end AeronClusterClient.Commit.Clearing
