/- module: AeronClusterClient/Client/SubscriptionTables
   source: src/cluster_client.cpp (add_subscribed_topic, remove_subscribed_topic,
   track_subscription, untrack_subscription, send_subscription_request,
   send_unsubscription_request)
   digest: When the three subscription tables of a client name the same topics. -/

import AeronClusterClient.Client.CommitKey
import AeronClusterClient.Lib.KeyedTable

/-!
The set of topics and the identifier map have one entry for each topic, the
tracked records one for each topic, identifier and instance. To unsubscribe one
identifier removes the topic from the first two and only some of its records.
-/

set_option autoImplicit false
set_option relaxedAutoImplicit false

namespace AeronClusterClient.Client.SubscriptionTables

open Lib.Runs Lib.KeyedTable Lib.Unordered
open Client.State Client.Subscriptions Client.Acts
open Client.CommitKey (connectStep subscribeOrders tracked_connect)
open Client.ResumeOnConnect (accepting)
open Config (ClusterClientConfig)
open Text (StdString ascii)

def HasRecord (s : Subscriptions) (topic : StdString) : Prop :=
  ∃ record ∈ rows s.trackedSubscriptions, record.topic = topic

def Agree (s : Subscriptions) : Prop :=
  ∀ topic, (topic ∈ s.subscribedTopics ↔ topic ∈ s.subscriptionMessageIdentifiers) ∧
    (topic ∈ s.subscribedTopics ↔ HasRecord s topic)

section Tables

variable (c : Impl) (topic messageIdentifier resumeStrategy instanceIdentifier : StdString)

/-- A record of another topic that the new one replaces is not the last one of its topic. -/
def LosesNoTopic : Prop :=
  let record := subscriptionRecord c topic messageIdentifier resumeStrategy instanceIdentifier
  ∀ lost ∈ rows c.trackedSubscriptions, recordKey lost = recordKey record → lost.topic ≠ topic →
    ∃ other ∈ rows c.trackedSubscriptions,
      recordKey other ≠ recordKey record ∧ other.topic = lost.topic

/-- Every record of the topic is erased: no identifier is given, or all have the one that is. -/
def ErasesTopic : Prop :=
  messageIdentifier = [] ∨ ∀ record ∈ rows c.trackedSubscriptions,
    record.topic = topic → record.messageIdentifier = messageIdentifier

variable {c topic messageIdentifier resumeStrategy instanceIdentifier}

theorem losesNoTopic_of_untracked (untracked : c.trackedSubscriptions = ∅) :
    LosesNoTopic c topic messageIdentifier resumeStrategy instanceIdentifier := by
  intro lost among
  rw [untracked] at among
  cases among

theorem hasRecord_subscribed_self :
    HasRecord (subscribed c topic messageIdentifier resumeStrategy instanceIdentifier).subscriptions
      topic := by
  refine ⟨subscriptionRecord c topic messageIdentifier resumeStrategy instanceIdentifier, ?_, rfl⟩
  exact mem_rows.mpr ⟨_, mem_entries_insert.mpr (.inl rfl), rfl⟩

theorem hasRecord_subscribed_of_ne (filed : Filed recordKey c.trackedSubscriptions)
    {other : StdString} (differs : other ≠ topic) :
    HasRecord (subscribed c topic messageIdentifier resumeStrategy instanceIdentifier).subscriptions
        other ↔
      ∃ record ∈ rows c.trackedSubscriptions, recordKey record ≠ recordKey (subscriptionRecord c topic
        messageIdentifier resumeStrategy instanceIdentifier) ∧ record.topic = other := by
  constructor
  · rintro ⟨record, among, rfl⟩
    rcases (mem_rows_insert filed).mp among with rfl | ⟨old, kept⟩
    · exact absurd rfl differs
    · exact ⟨record, old, kept, rfl⟩
  · rintro ⟨record, old, kept, rfl⟩
    exact ⟨record, (mem_rows_insert filed).mpr (.inr ⟨old, kept⟩), rfl⟩

/-- A subscription keeps the tables in agreement exactly when it loses no topic. -/
theorem agree_subscribed_iff (filed : Filed recordKey c.trackedSubscriptions)
    (agree : Agree c.subscriptions) :
    Agree (subscribed c topic messageIdentifier resumeStrategy instanceIdentifier).subscriptions ↔
      LosesNoTopic c topic messageIdentifier resumeStrategy instanceIdentifier := by
  have listed (other : StdString) :
      other ∈ (subscribed c topic messageIdentifier resumeStrategy
          instanceIdentifier).subscriptions.subscribedTopics ↔
        other = topic ∨ other ∈ c.subscribedTopics := Finset.mem_insert
  have identified (other : StdString) :
      other ∈ (subscribed c topic messageIdentifier resumeStrategy
          instanceIdentifier).subscriptions.subscriptionMessageIdentifiers ↔
        other = topic ∨ other ∈ c.subscriptionMessageIdentifiers := AList.mem_insert _
  constructor
  · intro still lost among _ differs
    have before : lost.topic ∈ c.subscribedTopics := (agree lost.topic).2.mpr ⟨lost, among, rfl⟩
    have after := (still lost.topic).2.mp ((listed _).mpr (.inr before))
    exact (hasRecord_subscribed_of_ne filed differs).mp after
  · intro spares other
    rw [listed, identified]
    by_cases same : other = topic
    · subst same
      simp [hasRecord_subscribed_self]
    · rw [hasRecord_subscribed_of_ne filed same]
      have before := agree other
      refine ⟨or_congr Iff.rfl before.1, ?_⟩
      constructor
      · rintro (rfl | member)
        · exact absurd rfl same
        · obtain ⟨record, among, rfl⟩ := before.2.mp member
          by_cases replaced : recordKey record = recordKey (subscriptionRecord c topic
              messageIdentifier resumeStrategy instanceIdentifier)
          · exact spares record among replaced same
          · exact ⟨record, among, replaced, rfl⟩
      · rintro ⟨record, among, -, rfl⟩
        exact .inr (before.2.mpr ⟨record, among, rfl⟩)

theorem hasRecord_unsubscribed {other : StdString} :
    HasRecord (unsubscribed c topic messageIdentifier).subscriptions other ↔
      ∃ record ∈ rows c.trackedSubscriptions, record.topic = other ∧
        ¬ (other = topic ∧ (messageIdentifier = [] ∨ record.messageIdentifier = messageIdentifier)) := by
  have kept (record : SubscriptionRecord) :
      record ∈ rows (unsubscribed c topic messageIdentifier).subscriptions.trackedSubscriptions ↔
        record ∈ rows c.trackedSubscriptions ∧ untracks topic messageIdentifier record = false :=
    mem_rows_eraseIf
  constructor
  · rintro ⟨record, among, rfl⟩
    obtain ⟨old, spared⟩ := (kept record).mp among
    refine ⟨record, old, rfl, ?_⟩
    simpa [untracks] using spared
  · rintro ⟨record, old, rfl, spared⟩
    refine ⟨record, (kept record).mpr ⟨old, ?_⟩, rfl⟩
    simpa [untracks] using spared

/-- An unsubscription keeps the tables in agreement exactly when it erases every record of its topic. -/
theorem agree_unsubscribed_iff (agree : Agree c.subscriptions) :
    Agree (unsubscribed c topic messageIdentifier).subscriptions ↔
      ErasesTopic c topic messageIdentifier := by
  have listed (other : StdString) :
      other ∈ (unsubscribed c topic messageIdentifier).subscriptions.subscribedTopics ↔
        other ≠ topic ∧ other ∈ c.subscribedTopics := Finset.mem_erase
  have identified (other : StdString) :
      other ∈ (unsubscribed c topic messageIdentifier).subscriptions.subscriptionMessageIdentifiers ↔
        other ≠ topic ∧ other ∈ c.subscriptionMessageIdentifiers := AList.mem_erase
  constructor
  · intro still
    by_cases whole : messageIdentifier = []
    · exact .inl whole
    · refine .inr fun record among same => ?_
      by_contra differs
      have left : HasRecord (unsubscribed c topic messageIdentifier).subscriptions topic :=
        hasRecord_unsubscribed.mpr ⟨record, among, same, by simp [whole, differs]⟩
      have member := (still topic).2.mpr left
      exact ((listed topic).mp member).1 rfl
  · intro erases other
    rw [listed, identified, hasRecord_unsubscribed]
    have before := agree other
    by_cases same : other = topic
    · subst same
      refine ⟨by simp, ?_⟩
      constructor
      · rintro ⟨differs, -⟩
        exact absurd rfl differs
      · rintro ⟨record, among, topicEq, spared⟩
        exfalso
        rcases erases with empty | every
        · exact spared ⟨rfl, .inl empty⟩
        · exact spared ⟨rfl, .inr (every record among topicEq)⟩
    · refine ⟨and_congr Iff.rfl before.1, ?_⟩
      constructor
      · rintro ⟨-, member⟩
        obtain ⟨record, among, topicEq⟩ := before.2.mp member
        exact ⟨record, among, topicEq, fun both => same both.1⟩
      · rintro ⟨record, among, topicEq, -⟩
        exact ⟨same, before.2.mpr ⟨record, among, topicEq⟩⟩

end Tables

section Runs

def KeepsTopics (c : Impl) (step : Step) : Prop :=
  match step.act with
  | .subscribe topic messageIdentifier resumeStrategy instanceIdentifier =>
      LosesNoTopic c topic messageIdentifier resumeStrategy (effectiveInstanceId c instanceIdentifier)
  | .unsubscribe topic messageIdentifier => ErasesTopic c topic messageIdentifier
  | _ => True

/-- The tables agree, and every record is stored under its own key. -/
structure InStep (c : Impl) : Prop where
  agree : Agree c.subscriptions
  filed : Filed recordKey c.subscriptions.trackedSubscriptions

theorem inStep_construct (config : ClusterClientConfig) (generated : StdString) :
    InStep (Impl.construct config generated) where
  agree topic := by
    constructor
    · exact iff_of_false (Finset.notMem_empty topic) (AList.notMem_empty topic)
    · refine iff_of_false (Finset.notMem_empty topic) ?_
      rintro ⟨record, among, -⟩
      cases among
  filed := filed_empty recordKey

theorem inStep_take {step : Step} {c : Impl} (before : InStep c) (keeps : KeepsTopics c step) :
    InStep (take step c) := by
  rcases subscriptions_take step c with same | ⟨topic, messageIdentifier, resumeStrategy,
    instanceIdentifier, request, changed⟩ | ⟨topic, messageIdentifier, request, changed⟩
  · exact ⟨same ▸ before.agree, same ▸ before.filed⟩
  · rw [KeepsTopics, request] at keeps
    refine ⟨?_, ?_⟩
    · rw [changed]
      exact (agree_subscribed_iff before.filed before.agree).mpr keeps
    · rw [changed]
      exact filed_insert before.filed _
  · rw [KeepsTopics, request] at keeps
    refine ⟨?_, ?_⟩
    · rw [changed]
      exact (agree_unsubscribed_iff before.agree).mpr keeps
    · rw [changed]
      exact filed_eraseIf before.filed _

/-- In a run of a new client whose requests lose no topic and erase whole topics, the three tables
agree in every state. -/
theorem tables_agree {config : ClusterClientConfig} {generated : StdString} {first rest : List Step}
    (meets : Meets take KeepsTopics (Impl.construct config generated) (first ++ rest)) :
    Agree (after (Impl.construct config generated) first).subscriptions := by
  have inStep : InStep (after (Impl.construct config generated) first) :=
    invariant_of_prefix InStep (inStep_construct config generated) (fun _ _ => inStep_take) meets
  exact inStep.agree

section Sample

def unsubscribeOrders (messageIdentifier : StdString) : Step :=
  ⟨accepting, .unsubscribe (ascii "orders") messageIdentifier⟩

def newClient : Impl := Impl.construct {} (ascii "instance")

/-- A client that subscribes one identifier, and unsubscribes the topic as a whole. -/
theorem tables_agree_sample :
    Agree (after newClient [connectStep, subscribeOrders (ascii "sub_1"),
      unsubscribeOrders []]).subscriptions := by
  have untracked : (take connectStep newClient).trackedSubscriptions = ∅ := tracked_connect newClient
  have loses : KeepsTopics (take connectStep newClient) (subscribeOrders (ascii "sub_1")) :=
    losesNoTopic_of_untracked untracked
  have meets : Meets take KeepsTopics newClient
      ([connectStep, subscribeOrders (ascii "sub_1"), unsubscribeOrders []] ++ []) :=
    ⟨trivial, loses, .inl rfl, trivial⟩
  exact tables_agree meets

/-- Two identifiers are subscribed and one of them is unsubscribed: the topic has a record but is no
longer a subscribed topic. -/
theorem tracked_topic_not_subscribed :
    ¬ ∀ (config : ClusterClientConfig) (generated : StdString) (steps : List Step),
      Agree (after (Impl.construct config generated) steps).subscriptions := by
  intro claim
  have agree := claim {} (ascii "instance") [connectStep, subscribeOrders (ascii "sub_1"),
    subscribeOrders (ascii "sub_2"), unsubscribeOrders (ascii "sub_1")]
  have same := (agree (ascii "orders")).2
  unfold HasRecord at same
  exact absurd same (by decide +kernel)

end Sample

end Runs

end AeronClusterClient.Client.SubscriptionTables
