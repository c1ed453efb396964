/- module: AeronClusterClient/Client/Subscriptions
   source: src/cluster_client.cpp (send_subscription_request, send_unsubscription_request,
   track_subscription, untrack_subscription, commit_message, send_commit_offset,
   resume_from_last_commit, resume_subscribed_topics)
   digest: Subscription requests with their tables, commits, and the resumption of subscriptions. -/

import AeronClusterClient.Client.Frames

set_option autoImplicit false
set_option relaxedAutoImplicit false

namespace AeronClusterClient.Client.Subscriptions

open Lib.Action Lib.Unordered Client.State Client.Frames
open Session.Manager (publishMessage sendCombinedMessage)
open Commit.Manager (CommitManager CommitOffset buildCommitOffsetMessage)
open Json (Jsoncpp Value)
open Text (StdString ascii)

def makeSubscriptionKey (topic messageIdentifier instanceIdentifier : StdString) : StdString :=
  topic ++ ascii "|" ++ messageIdentifier ++ ascii "|" ++ instanceIdentifier

section Tables

variable (c : Impl)

def addSubscribedTopic (topic : StdString) : Impl :=
  { c with subscribedTopics := insert topic c.subscribedTopics }

def removeSubscribedTopic (topic : StdString) : Impl :=
  { c with subscribedTopics := c.subscribedTopics.erase topic }

/-- The record that `track_subscription` stores; empty identifiers are replaced by defaults. -/
def subscriptionRecord (topic messageIdentifier resumeStrategy instanceIdentifier : StdString) :
    SubscriptionRecord where
  topic := topic
  messageIdentifier := if messageIdentifier.isEmpty then c.config.clientId else messageIdentifier
  resumeStrategy := resumeStrategy
  instanceIdentifier :=
    if instanceIdentifier.isEmpty then c.config.instanceIdentifier else instanceIdentifier

def recordKey (record : SubscriptionRecord) : StdString :=
  makeSubscriptionKey record.topic record.messageIdentifier record.instanceIdentifier

def trackSubscription (topic messageIdentifier resumeStrategy instanceIdentifier : StdString) : Impl :=
  let record := subscriptionRecord c topic messageIdentifier resumeStrategy instanceIdentifier
  { c with trackedSubscriptions := c.trackedSubscriptions.insert (recordKey record) record }

/-- The records that `untrack_subscription` erases: those of the topic, or of the topic
and the identifier when one is given. -/
def untracks (topic messageIdentifier : StdString) (record : SubscriptionRecord) : Bool :=
  record.topic == topic && (messageIdentifier.isEmpty || record.messageIdentifier == messageIdentifier)

def untrackSubscription (topic messageIdentifier : StdString) : Impl :=
  { c with
    trackedSubscriptions :=
      eraseIf (fun _ record => untracks topic messageIdentifier record) c.trackedSubscriptions }

/-- What a successful subscription request does to the tables. The identifier map keeps
the identifier as it was passed. -/
def subscribed (topic messageIdentifier resumeStrategy instanceIdentifier : StdString) : Impl :=
  let c := addSubscribedTopic c topic
  let c : Impl :=
    { c with
      subscriptionMessageIdentifiers :=
        c.subscriptionMessageIdentifiers.insert topic messageIdentifier }
  trackSubscription c topic messageIdentifier resumeStrategy instanceIdentifier

/-- What a successful unsubscription request does to the tables. -/
def unsubscribed (topic messageIdentifier : StdString) : Impl :=
  let c := removeSubscribedTopic c topic
  let c : Impl :=
    { c with subscriptionMessageIdentifiers := c.subscriptionMessageIdentifiers.erase topic }
  untrackSubscription c topic messageIdentifier

def commitIdentifier (s : Subscriptions) (topic : StdString) : StdString :=
  (s.subscriptionMessageIdentifiers.lookup topic).getD s.config.clientId

/-- The records that `resume_subscribed_topics` goes through: the tracked subscriptions,
or one record for each subscribed topic when nothing is tracked. -/
def resumeRecords (order : Enumeration StdString) : List SubscriptionRecord :=
  let subscriptions :=
    (order.list c.trackedSubscriptions.keys.toFinset).filterMap c.trackedSubscriptions.lookup
  if subscriptions.isEmpty then
    (order.list c.subscribedTopics).map fun topic =>
      { topic := topic
        messageIdentifier := commitIdentifier c.subscriptions topic
        resumeStrategy := ascii "LATEST"
        instanceIdentifier := c.config.instanceIdentifier }
  else subscriptions

end Tables

section Requests

variable (w : World)

/-- The headers of both requests, members in key order. -/
def requestHeaders (messageId : StdString) : Value :=
  .object [(ascii "messageId", .string messageId), (ascii "topic", .string (ascii "_subscriptions"))]

def effectiveInstanceId (c : Impl) (instanceIdentifier : StdString) : StdString :=
  if instanceIdentifier.isEmpty then c.config.instanceIdentifier else instanceIdentifier

def subscribePayload (topic messageIdentifier resumeStrategy instanceIdentifier : StdString) : Value :=
  .object [
    (ascii "action", .string (ascii "SUBSCRIBE")),
    (ascii "instanceIdentifier", .string instanceIdentifier),
    (ascii "messageIdentifier", .string messageIdentifier),
    (ascii "resumeStrategy", .string resumeStrategy),
    (ascii "topic", .string topic)]

def unsubscribePayload (topic messageIdentifier : StdString) : Value :=
  .object [
    (ascii "action", .string (ascii "UNSUBSCRIBE")),
    (ascii "messageIdentifier",
      if messageIdentifier.isEmpty then .null else .string messageIdentifier),
    (ascii "topic", .string topic)]

/-- Hand a message to the session manager, and throw its reason when it is not published. -/
def publishOrThrow (topic messageType messageId payload headers failure : StdString) :
    ClientM Unit := do
  modify (fun c =>
    { c with handed := c.handed ++ [.publish topic messageType messageId payload headers] })
  let c ← get
  if !(← callSession w
      (publishMessage c.config w.session topic messageType messageId payload headers)) then
    throwException ((← get).buildPublishFailureMessage failure)

/-- Publish a request on `_subscriptions`, or throw with the session manager's reason. -/
def publishRequest (messageType messageId : StdString) (payload : Value) (failure : StdString) :
    ClientM Unit :=
  publishOrThrow w (ascii "_subscriptions") messageType messageId (w.json.write payload)
    (w.json.write (requestHeaders messageId)) failure

def countSent : ClientM Unit :=
  modify (fun c => { c with stats.messagesSent := c.stats.messagesSent + 1 })

def sendSubscriptionRequest (topic messageIdentifier resumeStrategy instanceIdentifier : StdString) :
    ClientM StdString := do
  ensureConnectedOrThrow
  let messageId ← answer w.messageId
  let instanceId := effectiveInstanceId (← get) instanceIdentifier
  publishRequest w (ascii "SUBSCRIBE") messageId
    (subscribePayload topic messageIdentifier resumeStrategy instanceId)
    (ascii "Failed to send subscription request")
  modify (fun c => subscribed c topic messageIdentifier resumeStrategy instanceId)
  countSent
  return messageId

def sendUnsubscriptionRequest (topic messageIdentifier : StdString) : ClientM StdString := do
  ensureConnectedOrThrow
  let messageId ← answer w.messageId
  publishRequest w (ascii "UNSUBSCRIBE") messageId (unsubscribePayload topic messageIdentifier)
    (ascii "Failed to send unsubscription request")
  modify (fun c => unsubscribed c topic messageIdentifier)
  countSent
  return messageId

def sendCommitOffset (offset : CommitOffset) : ClientM Bool := do
  throwIfDriverTerminated
  let c ← get
  if !c.isConnected then return false
  let timestamp ← answer w.nowNanos
  let stamp ← answer w.nowNanos
  let frame ← orThrow
    (buildCommitOffsetMessage w.json offset.messageIdentifier offset timestamp stamp)
  modify (fun c => { c with handed := c.handed ++ [.combined frame] })
  callSession w (sendCombinedMessage c.config w.session frame)

/-- The offset is stored even when it cannot be sent. -/
def commitMessage (offset : CommitOffset) : ClientM Unit := do
  modify (fun c =>
    { c with
      commitManager := c.commitManager.commitMessage offset
      stored := c.stored ++ [offset] })
  let _ ← sendCommitOffset w offset

/-- Report the last commit of a subscription, or subscribe again when there is none. -/
def resumeRecord (record : SubscriptionRecord) : ClientM Unit := do
  match (← get).commitManager.getLastCommit record.topic record.messageIdentifier with
  | some lastCommit =>
      let _ ← sendCommitOffset w lastCommit
  | none =>
      catchException (do
          let _ ← sendSubscriptionRequest w record.topic record.messageIdentifier
            record.resumeStrategy record.instanceIdentifier)
        (fun _ => return ())

def resumeSubscribedTopics : ClientM Unit := do
  (resumeRecords (← get) w.order).forM (resumeRecord w)

end Requests

section Unconnected

variable {w : World}

theorem sendSubscriptionRequest_unconnected {c : Impl}
    (topic messageIdentifier resumeStrategy instanceIdentifier : StdString)
    (unconnected : c.connectionState ≠ .connected) :
    ∃ what, (sendSubscriptionRequest w topic messageIdentifier resumeStrategy
      instanceIdentifier).run c = .error (.exception what) c := by
  obtain ⟨what, run⟩ := ensureConnectedOrThrow_unconnected unconnected
  refine ⟨what, ?_⟩
  unfold sendSubscriptionRequest
  rw [EStateM.run_bind, run]

theorem unlessConnected_sendSubscriptionRequest
    {topic messageIdentifier resumeStrategy instanceIdentifier : StdString} :
    Within UnlessConnected
      (sendSubscriptionRequest w topic messageIdentifier resumeStrategy instanceIdentifier) := by
  intro c unconnected
  obtain ⟨what, run⟩ := sendSubscriptionRequest_unconnected (w := w) topic messageIdentifier
    resumeStrategy instanceIdentifier unconnected
  exact finalState_of_error run

theorem unlessConnected_sendCommitOffset (offset : CommitOffset) :
    Within UnlessConnected (sendCommitOffset w offset) := by
  intro c unconnected
  unfold sendCommitOffset finalState
  rw [EStateM.run_bind]
  rcases throwIfDriverTerminated_run c with run | ⟨what, run⟩
  · rw [run]
    dsimp only
    rw [EStateM.run_bind, EStateM.run_get]
    dsimp only
    rw [isConnected_of_unconnected unconnected]
    rfl
  · rw [run]

theorem unlessConnected_resumeRecord (record : SubscriptionRecord) :
    Within UnlessConnected (resumeRecord w record) := by
  unfold resumeRecord
  refine within_bind within_get fun c => ?_
  cases c.commitManager.getLastCommit record.topic record.messageIdentifier with
  | some lastCommit =>
      exact within_bind (unlessConnected_sendCommitOffset lastCommit) fun _ => within_pure _
  | none =>
      refine within_catchException ?_ fun _ => within_pure _
      exact within_bind unlessConnected_sendSubscriptionRequest fun _ => within_pure _

/-- The guard `is_connected()` stops every send of a resumption outside `CONNECTED`. -/
theorem unlessConnected_resumeSubscribedTopics :
    Within UnlessConnected (resumeSubscribedTopics w) := by
  unfold resumeSubscribedTopics
  exact within_bind within_get fun c => within_forM fun record _ => unlessConnected_resumeRecord record

end Unconnected

section Sends

variable {w : World}

theorem sends_publishOrThrow (topic messageType messageId payload headers failure : StdString) :
    Within Sends (publishOrThrow w topic messageType messageId payload headers failure) := by
  unfold publishOrThrow
  refine within_bind (within_modify fun c => ⟨⟨.refl, id, rfl⟩, rfl, rfl, rfl, rfl⟩) fun _ => ?_
  refine within_bind within_get fun c => ?_
  refine within_bind (sends_of_disturbs (disturbs_callSession _)) fun _ => ?_
  exact within_ite (within_bind within_get fun _ => within_throw _) (within_pure _)

theorem sends_publishRequest (messageType messageId : StdString) (payload : Value)
    (failure : StdString) :
    Within Sends (publishRequest w messageType messageId payload failure) := by
  unfold publishRequest
  exact sends_publishOrThrow _ _ _ _ _ _

theorem sends_sendCommitOffset (offset : CommitOffset) :
    Within Sends (sendCommitOffset w offset) := by
  unfold sendCommitOffset
  refine within_bind (sends_of_disturbs disturbs_throwIfDriverTerminated) fun _ => ?_
  refine within_bind within_get fun c => within_ite (within_pure _) ?_
  refine within_bind (sends_of_disturbs (disturbs_answer _)) fun timestamp => ?_
  refine within_bind (sends_of_disturbs (disturbs_answer _)) fun stamp => ?_
  refine within_bind (within_orThrow _) fun frame => ?_
  refine within_bind (within_modify fun c => ⟨⟨.refl, id, rfl⟩, rfl, rfl, rfl, rfl⟩) fun _ => ?_
  exact sends_of_disturbs (disturbs_callSession _)

section Requests

variable (topic messageIdentifier resumeStrategy instanceIdentifier : StdString)

private theorem subscribed_congr {c d : Impl} (same : c.subscriptions = d.subscriptions) :
    (subscribed c topic messageIdentifier resumeStrategy instanceIdentifier).subscriptions =
      (subscribed d topic messageIdentifier resumeStrategy instanceIdentifier).subscriptions := by
  simp only [Impl.subscriptions, Subscriptions.mk.injEq] at same
  obtain ⟨config, identifiers, topics, tracked⟩ := same
  simp [subscribed, trackSubscription, addSubscribedTopic, subscriptionRecord, Impl.subscriptions,
    config, identifiers, topics, tracked]

private theorem unsubscribed_congr {c d : Impl} (same : c.subscriptions = d.subscriptions) :
    (unsubscribed c topic messageIdentifier).subscriptions =
      (unsubscribed d topic messageIdentifier).subscriptions := by
  simp only [Impl.subscriptions, Subscriptions.mk.injEq] at same
  obtain ⟨config, identifiers, topics, tracked⟩ := same
  simp [unsubscribed, untrackSubscription, removeSubscribedTopic, Impl.subscriptions,
    config, identifiers, topics, tracked]

theorem subscribes_sendSubscriptionRequest :
    Within (fun c after => after.subscriptions = c.subscriptions ∨
        after.subscriptions = (subscribed c topic messageIdentifier resumeStrategy
          (effectiveInstanceId c instanceIdentifier)).subscriptions)
      (sendSubscriptionRequest w topic messageIdentifier resumeStrategy instanceIdentifier) := by
  unfold sendSubscriptionRequest
  have left {c d : Impl} (same : c.subscriptions = d.subscriptions) :
      (subscribed c topic messageIdentifier resumeStrategy
          (effectiveInstanceId c instanceIdentifier)).subscriptions =
        (subscribed d topic messageIdentifier resumeStrategy
          (effectiveInstanceId d instanceIdentifier)).subscriptions := by
    have config : c.config = d.config := congrArg (·.config) same
    rw [subscribed_congr _ _ _ _ same, effectiveInstanceId, effectiveInstanceId, config]
  refine within_bind_comp (Q := Sends) (sends_of_disturbs disturbs_ensureConnectedOrThrow)
    (fun _ => ?_) (fun _ _ h => .inl h.subscriptions)
    (fun _ _ _ first rest => by rwa [left first.subscriptions.symm, ← first.subscriptions])
  refine within_bind_comp (Q := Sends) (sends_of_disturbs (disturbs_answer _))
    (fun messageId => ?_) (fun _ _ h => .inl h.subscriptions)
    (fun _ _ _ first rest => by rwa [left first.subscriptions.symm, ← first.subscriptions])
  refine within_get_bind fun c => ?_
  refine within_bind_comp (Q := Sends)
    (R := fun s u => u.subscriptions = s.subscriptions ∨ u.subscriptions =
      (subscribed s topic messageIdentifier resumeStrategy
        (effectiveInstanceId c instanceIdentifier)).subscriptions)
    (S := fun t u => u.subscriptions = (subscribed t topic messageIdentifier resumeStrategy
      (effectiveInstanceId c instanceIdentifier)).subscriptions)
    (sends_publishRequest _ _ _ _) (fun _ => ?_) (fun _ _ h => .inl h.subscriptions) ?_ c
  · intro t
    rfl
  · exact fun s t u first rest => .inr (rest.trans (subscribed_congr _ _ _ _ first.subscriptions))

theorem unsubscribes_sendUnsubscriptionRequest :
    Within (fun c after => after.subscriptions = c.subscriptions ∨
        after.subscriptions = (unsubscribed c topic messageIdentifier).subscriptions)
      (sendUnsubscriptionRequest w topic messageIdentifier) := by
  unfold sendUnsubscriptionRequest
  refine within_bind_comp (Q := Sends) (sends_of_disturbs disturbs_ensureConnectedOrThrow)
    (fun _ => ?_) (fun _ _ h => .inl h.subscriptions)
    (fun _ _ _ first rest => by rwa [unsubscribed_congr _ _ first.subscriptions.symm, ← first.subscriptions])
  refine within_bind_comp (Q := Sends) (sends_of_disturbs (disturbs_answer _))
    (fun messageId => ?_) (fun _ _ h => .inl h.subscriptions)
    (fun _ _ _ first rest => by rwa [unsubscribed_congr _ _ first.subscriptions.symm, ← first.subscriptions])
  refine within_bind_comp (Q := Sends)
    (S := fun t u => u.subscriptions = (unsubscribed t topic messageIdentifier).subscriptions)
    (sends_publishRequest _ _ _ _) (fun _ => ?_) (fun _ _ h => .inl h.subscriptions) ?_
  · intro t
    rfl
  · exact fun s t u first rest => .inr (rest.trans (unsubscribed_congr _ _ first.subscriptions))

end Requests

/-- A commit is stored once, whether or not it can be sent. -/
structure Stores (offset : CommitOffset) (c after : Impl) : Prop extends Quiet c after where
  messages : after.messages = c.messages
  processedMessages : after.processedMessages = c.processedMessages
  commitManager : after.commitManager = c.commitManager.commitMessage offset
  stored : after.stored = c.stored ++ [offset]

theorem stores_commitMessage (offset : CommitOffset) :
    Within (Stores offset) (commitMessage w offset) := by
  unfold commitMessage
  have sent : Within (fun mid after => Sends mid after ∧ UnlessConnected mid after)
      (sendCommitOffset w offset >>= fun _ => pure ()) := fun c =>
    ⟨within_bind (sends_sendCommitOffset offset) (fun _ => within_pure _) c,
      within_bind (unlessConnected_sendCommitOffset offset) (fun _ => within_pure _) c⟩
  refine within_bind_comp (Q := fun c mid => Stores offset c mid ∧
      mid.connectionState = c.connectionState ∧ mid.handed = c.handed)
    (within_modify fun c =>
      ⟨⟨⟨⟨.refl, id, rfl⟩, fun _ => rfl⟩, rfl, rfl, rfl, rfl⟩, rfl, rfl⟩)
    (fun _ => sent) (fun _ _ h => h.1) ?_
  rintro c mid after ⟨first, state, handed⟩ ⟨rest, alone⟩
  refine ⟨⟨trans_of Steady first.toSteady rest.toSteady, fun unconnected => ?_⟩,
    rest.messages.trans first.messages, rest.processedMessages.trans first.processedMessages,
    rest.commitManager.trans first.commitManager, rest.stored.trans first.stored⟩
  rw [alone (by rwa [state]), handed]

end Sends

end AeronClusterClient.Client.Subscriptions
