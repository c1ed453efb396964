/- module: AeronClusterClient/Client/CommitPosition
   source: src/commit_manager.cpp (commit_message, get_last_commit),
   src/cluster_client.cpp (handle_incoming_message)
   digest: The committed position along a run of deliveries follows the last message committed. -/

import AeronClusterClient.Client.Delivery
import AeronClusterClient.Lib.Runs
import Mathlib.Order.WithBot

/-!
A redelivered message is committed again, and the commit store keeps what was
stored last. The position under a key is therefore that of the last message
delivered for it, whatever its sequence number is.
-/

set_option autoImplicit false
set_option relaxedAutoImplicit false

namespace AeronClusterClient.Client.CommitPosition

open Lib.Action Lib.Runs Lib.Bytes Lib.Unordered Client.State Client.Delivery
open Commit.Manager
open Sbe.Encoder (topicFrame)
open Text (StdString ascii)

section Positions

variable (topic messageIdentifier : StdString)

/-- The sequence number of the last commit; `⊥`, below all numbers, when there is none. -/
def committedPosition (c : Impl) : WithBot Nat :=
  match c.commitManager.getLastCommit topic messageIdentifier with
  | some lastCommit => (lastCommit.sequenceNumber : WithBot Nat)
  | none => ⊥

def sequencesOf (offsets : List CommitOffset) : List (WithBot Nat) :=
  (offsets.filter (fun offset =>
    commitKey topic messageIdentifier = commitKey offset.topic offset.messageIdentifier)).map
      (fun offset => (offset.sequenceNumber : WithBot Nat))

/-- The sequence numbers that deliveries commit under the key, in the order of the deliveries. -/
def committedSequences (c : Impl) (deliveries : List Incoming) : List (WithBot Nat) :=
  sequencesOf topic messageIdentifier
    ((stateAfter deliver c deliveries).stored.drop c.stored.length)

variable {topic messageIdentifier} {c : Impl} {incoming : Incoming} {deliveries : List Incoming}

theorem stored_extends (c : Impl) (deliveries : List Incoming) :
    ∃ offsets, (stateAfter deliver c deliveries).stored = c.stored ++ offsets := by
  induction deliveries generalizing c with
  | nil => exact ⟨[], (List.append_nil _).symm⟩
  | cons incoming deliveries ih =>
      obtain ⟨later, rest⟩ := ih (deliver incoming c)
      change (stateAfter deliver (deliver incoming c) deliveries).stored = _ at rest
      rcases commits_deliver incoming c with ⟨-, same⟩ | ⟨offset, -, new⟩
      · exact ⟨later, by rw [← same]; exact rest⟩
      · refine ⟨offset :: later, ?_⟩
        rw [new, List.append_assoc] at rest
        exact rest

theorem committedSequences_cons :
    committedSequences topic messageIdentifier c (incoming :: deliveries) =
      committedSequences topic messageIdentifier c [incoming] ++
        committedSequences topic messageIdentifier (deliver incoming c) deliveries := by
  obtain ⟨first, one⟩ := stored_extends c [incoming]
  obtain ⟨later, rest⟩ := stored_extends (deliver incoming c) deliveries
  change (deliver incoming c).stored = c.stored ++ first at one
  unfold committedSequences
  change sequencesOf _ _ ((stateAfter deliver (deliver incoming c) deliveries).stored.drop _) =
    sequencesOf _ _ ((deliver incoming c).stored.drop _) ++ _
  rw [rest, one]
  simp [sequencesOf]

theorem committedPosition_deliver :
    committedSequences topic messageIdentifier c [incoming] = [] ∧
        committedPosition topic messageIdentifier (deliver incoming c) =
          committedPosition topic messageIdentifier c ∨
      committedSequences topic messageIdentifier c [incoming] =
        [committedPosition topic messageIdentifier (deliver incoming c)] := by
  unfold committedSequences
  change sequencesOf _ _ ((deliver incoming c).stored.drop _) = [] ∧ _ ∨
    sequencesOf _ _ ((deliver incoming c).stored.drop _) = _
  unfold committedPosition
  rcases commits_deliver incoming c with ⟨manager, stored⟩ | ⟨offset, manager, stored⟩
  · rw [manager, stored]
    exact .inl ⟨by simp [sequencesOf], rfl⟩
  · rw [manager, stored, List.drop_left]
    by_cases key : commitKey topic messageIdentifier =
        commitKey offset.topic offset.messageIdentifier
    · rw [CommitManager.getLastCommit_commitMessage_of_eq _ key]
      exact .inr (by simp [sequencesOf, key])
    · rw [CommitManager.getLastCommit_commitMessage_of_ne _ key]
      exact .inl ⟨by simp [sequencesOf, key], rfl⟩

theorem committedPosition_run (c : Impl) (deliveries : List Incoming) :
    committedPosition topic messageIdentifier (stateAfter deliver c deliveries) =
      (committedSequences topic messageIdentifier c deliveries).getLastD
        (committedPosition topic messageIdentifier c) := by
  induction deliveries generalizing c with
  | nil => simp [committedSequences, stateAfter, sequencesOf]
  | cons incoming deliveries ih =>
      rw [committedSequences_cons]
      change committedPosition _ _ (stateAfter deliver (deliver incoming c) deliveries) = _
      rw [ih]
      rcases committedPosition_deliver (c := c) with ⟨nothing, same⟩ | one
      · rw [nothing, same, List.nil_append]
      · rw [one, List.singleton_append, List.getLastD_cons]

theorem ascends_iff (c : Impl) (deliveries : List Incoming) :
    Ascends (committedPosition topic messageIdentifier) deliver c deliveries ↔
      (committedPosition topic messageIdentifier c ::
        committedSequences topic messageIdentifier c deliveries).IsChain (· ≤ ·) := by
  induction deliveries generalizing c with
  | nil =>
      have nothing : committedSequences topic messageIdentifier c [] = [] := by
        simp [committedSequences, stateAfter, sequencesOf]
      rw [nothing]
      exact iff_of_true ascends_nil (.singleton _)
  | cons incoming deliveries ih =>
      rw [ascends_cons, ih, committedSequences_cons]
      rcases committedPosition_deliver (c := c) with ⟨nothing, same⟩ | one
      · rw [nothing, same, List.nil_append]
        exact and_iff_right le_rfl
      · rw [one, List.singleton_append, List.isChain_cons_cons]

/-- Along every run of deliveries, the committed position is the sequence number of the message
committed last under the key, and it never moves back exactly when these numbers ascend. -/
theorem position_follows_last_commit (c : Impl) (deliveries : List Incoming)
    (topic messageIdentifier : StdString) :
    committedPosition topic messageIdentifier (stateAfter deliver c deliveries) =
        (committedSequences topic messageIdentifier c deliveries).getLastD
          (committedPosition topic messageIdentifier c) ∧
      (Ascends (committedPosition topic messageIdentifier) deliver c deliveries ↔
        (committedPosition topic messageIdentifier c ::
          committedSequences topic messageIdentifier c deliveries).IsChain (· ≤ ·)) :=
  ⟨committedPosition_run c deliveries, ascends_iff c deliveries⟩

section Sample

/-- jsoncpp as it behaves on the two payloads of the sample. -/
def sequencedJson : Json.Jsoncpp :=
  { Json.plainJson with
    parse := fun text =>
      if text = ascii "\x7b\"_sequence_number\":1\x7d" then
        .ok (some (.object [(ascii "_sequence_number", .int 1)]))
      else if text = ascii "\x7b\"_sequence_number\":2\x7d" then
        .ok (some (.object [(ascii "_sequence_number", .int 2)]))
      else .ok none }

def sequenced (uuid payload : StdString) : Incoming :=
  let frame := topicFrame 1700000000000 0 (ascii "orders") (ascii "ORDER") uuid payload []
  { world := { json := sequencedJson, order := lexicographic }
    mem := memoryOf 4096 frame
    data := 4096
    length := frame.length }

def firstMessage : Incoming := sequenced (ascii "msg_1") (ascii "\x7b\"_sequence_number\":1\x7d")

def secondMessage : Incoming := sequenced (ascii "msg_2") (ascii "\x7b\"_sequence_number\":2\x7d")

def ordersClient : Impl := { config := {}, subscribedTopics := {ascii "orders"} }

/-- A redelivery of the first message after the second one takes the position back. -/
theorem redelivery_moves_back :
    ¬ ∀ (c : Impl) (deliveries : List Incoming) (topic messageIdentifier : StdString),
      c.config.enableAutoCommit = true →
        Ascends (committedPosition topic messageIdentifier) deliver c deliveries := by
  intro claim
  have ascends := claim ordersClient [firstMessage, secondMessage, firstMessage] (ascii "orders")
    (ascii "cpp_client") rfl [firstMessage, secondMessage] [firstMessage] [] rfl
  have before : committedPosition (ascii "orders") (ascii "cpp_client")
      (stateAfter deliver ordersClient [firstMessage, secondMessage]) = (2 : Nat) := by
    decide +kernel
  have after : committedPosition (ascii "orders") (ascii "cpp_client")
      (stateAfter deliver ordersClient ([firstMessage, secondMessage] ++ [firstMessage])) =
        (1 : Nat) := by
    decide +kernel
  rw [before, after] at ascends
  exact absurd ascends (by decide)

end Sample

end Positions

end AeronClusterClient.Client.CommitPosition
