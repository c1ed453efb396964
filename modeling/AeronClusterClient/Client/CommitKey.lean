/- module: AeronClusterClient/Client/CommitKey
   source: src/cluster_client.cpp (send_subscription_request, send_unsubscription_request,
   track_subscription, untrack_subscription, handle_incoming_message, resume_subscribed_topics)
   digest: The keys under which messages are committed and those that a resumption looks up. -/

import AeronClusterClient.Client.Acts
import AeronClusterClient.Client.ResumeOnConnect

/-!
The identifier of a subscription is kept twice: the identifier map has the one
that was passed with the last request for the topic, the tracked records have
it with the client id in place of an empty one. A commit reads the map, a
resumption reads the records.
-/

set_option autoImplicit false
set_option relaxedAutoImplicit false

namespace AeronClusterClient.Client.CommitKey

open Lib.Action Lib.Runs Lib.Bytes Lib.Unordered
open Client.State Client.Frames Client.Subscriptions Client.Delivery Client.Acts
open Client.ResumeOnConnect (accepting)
open Commit.Manager (CommitOffset)
open Sbe.Encoder (topicFrame)
open Text (StdString ascii)

def Tracked (s : Subscriptions) (topic messageIdentifier : StdString) : Prop :=
  ∃ e ∈ s.trackedSubscriptions.entries,
    e.2.topic = topic ∧ e.2.messageIdentifier = messageIdentifier

/-- The identifier that commits of a tracked topic use is one of its records. -/
def Consistent (s : Subscriptions) : Prop :=
  ∀ e ∈ s.trackedSubscriptions.entries, Tracked s e.2.topic (commitIdentifier s e.2.topic)

section Tables

variable (c : Impl) (topic messageIdentifier resumeStrategy instanceIdentifier : StdString)

/-- A record that is stored under the key of a new one of another topic, which takes a `|` in an
identifier, is lost. The topic can spare it when it keeps a record with its identifier or none. -/
def Spares (s : Subscriptions) (record : SubscriptionRecord) : Prop :=
  ∀ lost ∈ s.trackedSubscriptions.lookup (recordKey record), lost.topic ≠ record.topic →
    (∀ e ∈ s.trackedSubscriptions.entries, e.2.topic = lost.topic → e.1 = recordKey record) ∨
      ∃ e ∈ s.trackedSubscriptions.entries, e.1 ≠ recordKey record ∧ e.2.topic = lost.topic ∧
        e.2.messageIdentifier = commitIdentifier s lost.topic

/-- The identifier is given, so that both tables keep it, and the record displaces none that is
still needed. -/
def KeepsSubscribing : Prop :=
  (messageIdentifier ≠ [] ∨ c.config.clientId = []) ∧
    Spares c.subscriptions (subscriptionRecord c topic messageIdentifier resumeStrategy
      (effectiveInstanceId c instanceIdentifier))

/-- The topic keeps no record, or one with the client id, which commits fall back to. -/
def KeepsUnsubscribing : Prop :=
  messageIdentifier = [] ∨
    (∀ e ∈ c.trackedSubscriptions.entries, e.2.topic = topic →
      e.2.messageIdentifier = messageIdentifier) ∨
    c.config.clientId ≠ messageIdentifier ∧ Tracked c.subscriptions topic c.config.clientId

def KeepsKeys (c : Impl) (step : Step) : Prop :=
  match step.act with
  | .subscribe topic messageIdentifier resumeStrategy instanceIdentifier =>
      KeepsSubscribing c topic messageIdentifier resumeStrategy instanceIdentifier
  | .unsubscribe topic messageIdentifier => KeepsUnsubscribing c topic messageIdentifier
  | _ => True

variable {c topic messageIdentifier resumeStrategy instanceIdentifier}

theorem spares_of_untracked (untracked : c.trackedSubscriptions = ∅) (record : SubscriptionRecord) :
    Spares c.subscriptions record := by
  intro lost found
  change lost ∈ c.trackedSubscriptions.lookup (recordKey record) at found
  rw [untracked] at found
  cases found

theorem commitIdentifier_subscribed_self :
    commitIdentifier
      (subscribed c topic messageIdentifier resumeStrategy instanceIdentifier).subscriptions topic =
        messageIdentifier := by
  simp [commitIdentifier, subscribed, trackSubscription, Impl.subscriptions]

theorem commitIdentifier_subscribed_of_ne {other : StdString} (differs : other ≠ topic) :
    commitIdentifier
      (subscribed c topic messageIdentifier resumeStrategy instanceIdentifier).subscriptions other =
        commitIdentifier c.subscriptions other := by
  simp [commitIdentifier, subscribed, trackSubscription, Impl.subscriptions, addSubscribedTopic,
    AList.lookup_insert_ne differs]

theorem commitIdentifier_unsubscribed_self :
    commitIdentifier (unsubscribed c topic messageIdentifier).subscriptions topic =
      c.config.clientId := by
  simp [commitIdentifier, unsubscribed, untrackSubscription, Impl.subscriptions, removeSubscribedTopic]

theorem commitIdentifier_unsubscribed_of_ne {other : StdString} (differs : other ≠ topic) :
    commitIdentifier (unsubscribed c topic messageIdentifier).subscriptions other =
      commitIdentifier c.subscriptions other := by
  simp [commitIdentifier, unsubscribed, untrackSubscription, Impl.subscriptions,
    removeSubscribedTopic, AList.lookup_erase_ne differs]

theorem mem_tracked_subscribed {e : Sigma fun _ : StdString => SubscriptionRecord} :
    let record := subscriptionRecord c topic messageIdentifier resumeStrategy instanceIdentifier
    e ∈ (subscribed c topic messageIdentifier resumeStrategy
        instanceIdentifier).subscriptions.trackedSubscriptions.entries ↔
      e = ⟨recordKey record, record⟩ ∨
        e ∈ c.subscriptions.trackedSubscriptions.entries ∧ e.1 ≠ recordKey record :=
  mem_entries_insert

theorem mem_tracked_unsubscribed {e : Sigma fun _ : StdString => SubscriptionRecord} :
    e ∈ (unsubscribed c topic messageIdentifier).subscriptions.trackedSubscriptions.entries ↔
      e ∈ c.subscriptions.trackedSubscriptions.entries ∧
        untracks topic messageIdentifier e.2 = false :=
  mem_entries_eraseIf

theorem consistent_subscribed (consistent : Consistent c.subscriptions)
    (keeps : KeepsSubscribing c topic messageIdentifier resumeStrategy instanceIdentifier) :
    Consistent (subscribed c topic messageIdentifier resumeStrategy
      (effectiveInstanceId c instanceIdentifier)).subscriptions := by
  obtain ⟨given, spares⟩ := keeps
  generalize effectiveInstanceId c instanceIdentifier = instanceId at spares ⊢
  intro e tracked
  by_cases same : e.2.topic = topic
  · rw [same, commitIdentifier_subscribed_self]
    refine ⟨_, mem_tracked_subscribed.mpr (.inl rfl), rfl, ?_⟩
    rcases given with given | empty
    · simp [subscriptionRecord, given]
    · by_cases missing : messageIdentifier = []
      · simp [subscriptionRecord, missing, empty]
      · simp [subscriptionRecord, missing]
  · rw [commitIdentifier_subscribed_of_ne same]
    rcases mem_tracked_subscribed.mp tracked with rfl | ⟨old, key⟩
    · exact absurd rfl same
    · obtain ⟨f, stored, topicEq, identifierEq⟩ := consistent e old
      by_cases lost : f.1 = recordKey
          (subscriptionRecord c topic messageIdentifier resumeStrategy instanceId)
      · -- the record that commits use is displaced, so another one takes its part
        have found := AList.mem_lookup_iff.mpr stored
        rw [lost] at found
        rcases spares f.2 found (by rw [topicEq]; exact same) with alone | ⟨g, kept, key', parts⟩
        · exact absurd (alone e old topicEq.symm) key
        · rw [topicEq] at parts
          exact ⟨g, mem_tracked_subscribed.mpr (.inr ⟨kept, key'⟩), parts⟩
      · exact ⟨f, mem_tracked_subscribed.mpr (.inr ⟨stored, lost⟩), topicEq, identifierEq⟩

theorem consistent_unsubscribed (consistent : Consistent c.subscriptions)
    (keeps : KeepsUnsubscribing c topic messageIdentifier) :
    Consistent (unsubscribed c topic messageIdentifier).subscriptions := by
  intro e tracked
  obtain ⟨old, kept⟩ := mem_tracked_unsubscribed.mp tracked
  by_cases same : e.2.topic = topic
  · rw [same, commitIdentifier_unsubscribed_self]
    rw [untracks, same] at kept
    simp only [beq_self_eq_true, Bool.true_and, Bool.or_eq_false_iff, List.isEmpty_eq_false_iff,
      beq_eq_false_iff_ne] at kept
    rcases keeps with empty | every | ⟨differs, f, stored, topicEq, identifierEq⟩
    · exact absurd empty kept.1
    · exact absurd (every e old same) kept.2
    · refine ⟨f, mem_tracked_unsubscribed.mpr ⟨stored, ?_⟩, topicEq, identifierEq⟩
      simp [untracks, topicEq, identifierEq, kept.1, differs]
  · rw [commitIdentifier_unsubscribed_of_ne same]
    obtain ⟨f, stored, topicEq, identifierEq⟩ := consistent e old
    refine ⟨f, mem_tracked_unsubscribed.mpr ⟨stored, ?_⟩, topicEq, identifierEq⟩
    simp [untracks, topicEq, same]

theorem consistent_take {step : Step} (consistent : Consistent c.subscriptions)
    (keeps : KeepsKeys c step) : Consistent (take step c).subscriptions := by
  rcases subscriptions_take step c with same | ⟨topic, messageIdentifier, resumeStrategy,
    instanceIdentifier, request, changed⟩ | ⟨topic, messageIdentifier, request, changed⟩
  · rwa [same]
  · rw [changed]
    rw [KeepsKeys, request] at keeps
    exact consistent_subscribed consistent keeps
  · rw [changed]
    rw [KeepsKeys, request] at keeps
    exact consistent_unsubscribed consistent keeps

end Tables

section Runs

/-- While something is tracked, a resumption goes through every tracked record. -/
theorem mem_resumeRecords {c : Impl} {e : Sigma fun _ : StdString => SubscriptionRecord}
    (tracked : e ∈ c.trackedSubscriptions.entries) (order : Enumeration StdString) :
    e.2 ∈ resumeRecords c order := by
  have listed : e.2 ∈ (order.list c.trackedSubscriptions.keys.toFinset).filterMap
      c.trackedSubscriptions.lookup := by
    refine List.mem_filterMap.mpr ⟨e.1, ?_, AList.mem_lookup_iff.mpr tracked⟩
    rw [order.mem_list, List.mem_toFinset]
    exact List.mem_map_of_mem tracked
  have some : ((order.list c.trackedSubscriptions.keys.toFinset).filterMap
      c.trackedSubscriptions.lookup).isEmpty = false :=
    List.isEmpty_eq_false_iff.mpr (List.ne_nil_of_mem listed)
  rw [resumeRecords, some]
  exact listed

/-- A delivery that commits under a topic with a tracked subscription commits under a topic and an
identifier that a resumption looks up. -/
def CommitsAreResumed (c : Impl) : Prop :=
  ∀ (w : World) (mem : Memory) (data length : Nat) (offset : CommitOffset),
    let after := finalState (handleIncomingMessage w mem data length) c
    after.stored = c.stored ++ [offset] →
    (∃ e ∈ after.trackedSubscriptions.entries, e.2.topic = offset.topic) →
    ∀ order : Enumeration StdString, ∃ record ∈ resumeRecords after order,
      record.topic = offset.topic ∧ record.messageIdentifier = offset.messageIdentifier

theorem commitsAreResumed_of_consistent {c : Impl} (consistent : Consistent c.subscriptions) :
    CommitsAreResumed c := by
  intro w mem data length offset after stored tracked order
  have same : after.subscriptions = c.subscriptions :=
    (quiet_handleIncomingMessage mem data length c).subscriptions
  obtain ⟨result, -, -, rfl⟩ := stored_by_delivery stored
  obtain ⟨e, member, topicEq⟩ := tracked
  obtain ⟨f, found, parts⟩ := (same ▸ consistent : Consistent after.subscriptions) e member
  refine ⟨f.2, mem_resumeRecords found order, ?_⟩
  rw [topicEq, same] at parts
  exact parts

/-- In a run that begins without subscriptions and whose requests all keep the keys, every commit
of a tracked topic is one that a resumption finds. -/
theorem commits_are_resumed {c : Impl} {first rest : List Step}
    (untracked : c.trackedSubscriptions = ∅)
    (meets : Meets take KeepsKeys c (first ++ rest)) : CommitsAreResumed (after c first) := by
  have initially : Consistent c.subscriptions := by
    intro e tracked
    change e ∈ c.trackedSubscriptions.entries at tracked
    rw [untracked] at tracked
    cases tracked
  have consistent : Consistent (after c first).subscriptions :=
    invariant_of_prefix (fun c => Consistent c.subscriptions) initially
      (fun _ _ => consistent_take) meets
  exact commitsAreResumed_of_consistent consistent

section Sample

def subscribeOrders (messageIdentifier : StdString) : Step :=
  ⟨accepting, .subscribe (ascii "orders") messageIdentifier (ascii "LATEST") []⟩

def connectStep : Step := ⟨accepting, .connect⟩

def connectedClient : Impl := take connectStep { config := {} }

theorem tracked_connect (c : Impl) :
    (take connectStep c).trackedSubscriptions = c.trackedSubscriptions :=
  congrArg Subscriptions.trackedSubscriptions
    ((subscriptions_take connectStep c).resolve_right (by simp [connectStep]))

private theorem untracked_connectedClient : connectedClient.trackedSubscriptions = ∅ :=
  tracked_connect { config := {} }

theorem commits_are_resumed_sample :
    CommitsAreResumed (after connectedClient [subscribeOrders (ascii "sub_1")]) := by
  have meets : Meets take KeepsKeys connectedClient ([subscribeOrders (ascii "sub_1")] ++ []) :=
    ⟨⟨.inl (by decide), spares_of_untracked untracked_connectedClient _⟩, trivial⟩
  exact commits_are_resumed untracked_connectedClient meets

/-- A call that is one of the two requests and succeeds. -/
def RequestSucceeds (c : Impl) (step : Step) : Prop :=
  ((∃ topic messageIdentifier resumeStrategy instanceIdentifier,
      step.act = .subscribe topic messageIdentifier resumeStrategy instanceIdentifier) ∨
    ∃ topic messageIdentifier, step.act = .unsubscribe topic messageIdentifier) ∧
  returned (perform step.world step.act) c = some ()

/-- A frame with a payload that is no JSON, so that its topic is the subscribed one. -/
def plainFrame : List UInt8 :=
  topicFrame 1700000000000 0 (ascii "orders") (ascii "ORDER") (ascii "msg_1") (ascii "hello") []

/-- A subscription without an identifier is recorded under the client id and committed
under the empty identifier. -/
theorem empty_identifier_not_resumed :
    ¬ ∀ (c : Impl) (steps : List Step), c.trackedSubscriptions = ∅ →
      Meets take RequestSucceeds c steps → CommitsAreResumed (after c steps) := by
  intro claim
  have succeeds : Meets take RequestSucceeds connectedClient [subscribeOrders []] :=
    ⟨⟨.inl ⟨_, _, _, _, rfl⟩, by decide +kernel⟩, trivial⟩
  have resumed := claim connectedClient [subscribeOrders []] untracked_connectedClient
    succeeds accepting (memoryOf 4096 plainFrame) 4096 plainFrame.length
    { topic := ascii "orders", messageIdentifier := [], messageId := ascii "msg_1",
      timestampNanos := 1700000000000, sequenceNumber := 0 }
    (by decide +kernel) (by decide +kernel) lexicographic
  exact absurd resumed (by decide +kernel)

end Sample

end Runs

end AeronClusterClient.Client.CommitKey
