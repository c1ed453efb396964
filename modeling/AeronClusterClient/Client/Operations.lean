/- module: AeronClusterClient/Client/Operations
   source: src/cluster_client.cpp (publish_*, send_commit_request, resume_from_last_commit),
   src/session_manager.cpp (keepalive loop)
   digest: The remaining operations of a client, and its runs over all of them. -/

import AeronClusterClient.Client.SessionEffects
import AeronClusterClient.Orders

set_option autoImplicit false
set_option relaxedAutoImplicit false

namespace AeronClusterClient.Client.Operations

open Lib.Action Lib.Runs Client.State Client.Subscriptions Client.Programs Client.SessionEffects
open Commit.Manager (CommitOffset buildCommitMessage)
open Config (ClusterClientConfig)
open Orders (Order)
open Session.Manager (SessionState sendKeepalive sendRawMessage)
open Session.Updates (On)
open Text (StdString ascii)

section Programs

variable (w : World)

/-- What `publish_order` and `publish_order_to_topic` do once their arguments may be looked at. -/
def publishOrderOn (topic : StdString) (order : Order) : ClientM StdString := do
  match order.validate with
  | error :: _ => throwException (ascii "Invalid message: Order validation failed: " ++ error)
  | [] =>
      let messageId ← answer w.messageId
      publishOrThrow w topic order.messageType messageId (w.json.write order.toJson)
        (w.json.write (order.publishHeaders messageId)) (ascii "Failed to publish order message")
      countSent
      return messageId

/-- What `publish_message` and `publish_message_to_topic` do after their checks. -/
def publishMessageOn (topic messageType payload headers : StdString) : ClientM StdString := do
  let messageId ← answer w.messageId
  publishOrThrow w topic messageType messageId payload headers (ascii "Failed to publish message")
  countSent
  return messageId

def throwIfTopicEmpty (topic : StdString) : ClientM Unit := do
  if topic.isEmpty then throwException (ascii "Invalid message: Topic is empty")

def publishOrder (order : Order) : ClientM StdString := do
  ensureConnectedOrThrow
  publishOrderOn w (← get).config.defaultTopic order

def publishOrderToTopic (order : Order) (topic : StdString) : ClientM StdString := do
  ensureConnectedOrThrow
  throwIfTopicEmpty topic
  publishOrderOn w topic order

def publishMessage (messageType payload headers : StdString) : ClientM StdString := do
  ensureConnectedOrThrow
  publishMessageOn w (← get).config.defaultTopic messageType payload headers

def publishMessageToTopic (messageType payload headers topic : StdString) : ClientM StdString := do
  ensureConnectedOrThrow
  throwIfTopicEmpty topic
  publishMessageOn w topic messageType payload headers

/-- The frame goes to the publication as it is. -/
def sendCommitRequest (topic : StdString) : ClientM Bool := do
  throwIfDriverTerminated
  let c ← get
  if !c.isConnected then return false
  let timestamp ← answer w.nowNanos
  let stamp ← answer w.nowNanos
  let frame ← orThrow (buildCommitMessage topic c.config.clientId timestamp stamp)
  modify (fun c => { c with handed := c.handed ++ [.raw frame] })
  callSession w (sendRawMessage c.config w.session frame)

def resumeFromLastCommit (topic messageIdentifier : StdString) : ClientM Bool := do
  throwIfDriverTerminated
  let c ← get
  if !c.isConnected then return false
  match c.commitManager.getLastCommit topic messageIdentifier with
  | none =>
      let messageId ← sendSubscriptionRequest w topic messageIdentifier (ascii "LATEST") []
      return messageId ≠ []
  | some lastCommit => sendCommitOffset w lastCommit

/-- One turn of the keepalive thread. -/
def keepalive : ClientM Bool := callSession w (sendKeepalive w.session)

end Programs

/-- What may be asked of a client: the calls of `Act`, and the operations above. The
asynchronous publishes run the same code on another thread. -/
inductive Operation
  | act (act : Acts.Act)
  | setMessageCallback (present : Bool)
  | setConnectionStateCallback (present : Bool)
  | setErrorCallback (present : Bool)
  | setInstanceIdentifier (instanceId : StdString)
  | publishOrder (order : Order)
  | publishOrderToTopic (order : Order) (topic : StdString)
  | publishMessage (messageType payload headers : StdString)
  | publishMessageToTopic (messageType payload headers topic : StdString)
  | sendCommitRequest (topic : StdString)
  | sendCommitOffset (offset : CommitOffset)
  | resumeFromLastCommit (topic messageIdentifier : StdString)
  | keepalive

structure Step where
  world : World
  operation : Operation

def perform (w : World) : Operation → ClientM Unit
  | .act act => Acts.perform w act
  | .setMessageCallback present => modify (fun c => { c with messageCallback := present })
  | .setConnectionStateCallback present =>
      modify (fun c => { c with connectionStateCallback := present })
  | .setErrorCallback present => modify (fun c => { c with errorCallback := present })
  | .setInstanceIdentifier instanceId =>
      modify (fun c => { c with config.instanceIdentifier := instanceId })
  | .publishOrder order => do let _ ← publishOrder w order
  | .publishOrderToTopic order topic => do let _ ← publishOrderToTopic w order topic
  | .publishMessage messageType payload headers =>
      do let _ ← publishMessage w messageType payload headers
  | .publishMessageToTopic messageType payload headers topic =>
      do let _ ← publishMessageToTopic w messageType payload headers topic
  | .sendCommitRequest topic => do let _ ← sendCommitRequest w topic
  | .sendCommitOffset offset => do let _ ← sendCommitOffset w offset
  | .resumeFromLastCommit topic messageIdentifier =>
      do let _ ← resumeFromLastCommit w topic messageIdentifier
  | .keepalive => do let _ ← keepalive w

def take (step : Step) (c : Impl) : Impl := finalState (perform step.world step.operation) c

def reached (config : ClusterClientConfig) (generated : StdString) (steps : List Step) : Impl :=
  stateAfter take (Impl.construct config generated) steps

section Parts

variable {P : ∀ {α : Type}, ClientM α → Prop} {w : World}

theorem has_throwIfTopicEmpty (closed : Closed P) (topic : StdString) :
    P (throwIfTopicEmpty topic) := by
  unfold throwIfTopicEmpty
  exact has_ite (closed.throwException _) (closed.pure _)

variable (basis : Basis w P)
include basis

theorem has_publishOrderOn (topic : StdString) (order : Order) :
    P (publishOrderOn w topic order) := by
  unfold publishOrderOn
  cases order.validate with
  | nil =>
      refine basis.bind (has_answer basis.toCore _) fun messageId => ?_
      refine basis.bind (has_publishOrThrow basis.toCore _ _ _ _ _ _) fun _ => ?_
      exact basis.bind (has_countSent basis.toCore) fun _ => basis.pure _
  | cons error errors => exact basis.throwException _

theorem has_publishMessageOn (topic messageType payload headers : StdString) :
    P (publishMessageOn w topic messageType payload headers) := by
  unfold publishMessageOn
  refine basis.bind (has_answer basis.toCore _) fun messageId => ?_
  refine basis.bind (has_publishOrThrow basis.toCore _ _ _ _ _ _) fun _ => ?_
  exact basis.bind (has_countSent basis.toCore) fun _ => basis.pure _

theorem has_publishOrder (order : Order) : P (publishOrder w order) := by
  unfold publishOrder
  refine basis.bind (has_ensureConnectedOrThrow basis.toClosed) fun _ => ?_
  exact basis.bind basis.get fun c => has_publishOrderOn basis _ order

theorem has_publishOrderToTopic (order : Order) (topic : StdString) :
    P (publishOrderToTopic w order topic) := by
  unfold publishOrderToTopic
  refine basis.bind (has_ensureConnectedOrThrow basis.toClosed) fun _ => ?_
  exact basis.bind (has_throwIfTopicEmpty basis.toClosed topic) fun _ =>
    has_publishOrderOn basis topic order

theorem has_publishMessage (messageType payload headers : StdString) :
    P (publishMessage w messageType payload headers) := by
  unfold publishMessage
  refine basis.bind (has_ensureConnectedOrThrow basis.toClosed) fun _ => ?_
  exact basis.bind basis.get fun c => has_publishMessageOn basis _ _ _ _

theorem has_publishMessageToTopic (messageType payload headers topic : StdString) :
    P (publishMessageToTopic w messageType payload headers topic) := by
  unfold publishMessageToTopic
  refine basis.bind (has_ensureConnectedOrThrow basis.toClosed) fun _ => ?_
  exact basis.bind (has_throwIfTopicEmpty basis.toClosed topic) fun _ =>
    has_publishMessageOn basis _ _ _ _

theorem has_resumeFromLastCommit (topic messageIdentifier : StdString) :
    P (resumeFromLastCommit w topic messageIdentifier) := by
  unfold resumeFromLastCommit
  refine basis.bind (has_throwIfDriverTerminated basis.toClosed) fun _ => ?_
  refine basis.bind basis.get fun c => has_ite (basis.pure _) ?_
  cases c.commitManager.getLastCommit topic messageIdentifier with
  | none =>
      exact basis.bind (has_sendSubscriptionRequest basis.toCore _ _ _ _) fun _ => basis.pure _
  | some lastCommit => exact has_sendCommitOffset basis.toCore lastCommit

theorem has_sendCommitRequest {topic : StdString}
    (sent : ∀ config clientId timestamp stamp frame,
      buildCommitMessage topic clientId timestamp stamp = .ok frame →
        P (callSession w (sendRawMessage config w.session frame))) :
    P (sendCommitRequest w topic) := by
  unfold sendCommitRequest
  refine basis.bind (has_throwIfDriverTerminated basis.toClosed) fun _ => ?_
  refine basis.bind basis.get fun c => has_ite (basis.pure _) ?_
  refine basis.bind (has_answer basis.toCore _) fun timestamp => ?_
  refine basis.bind (has_answer basis.toCore _) fun stamp => ?_
  cases built : buildCommitMessage topic c.config.clientId timestamp stamp with
  | error what => exact basis.throwException what
  | ok frame =>
      simp only [orThrow, pure_bind]
      refine basis.bind (basis.aside fun _ => ⟨⟨rfl, rfl, rfl, rfl, id⟩, rfl, rfl⟩) fun _ => ?_
      exact sent _ _ _ _ _ built

theorem has_act (act : Acts.Act) (connects : P (Connection.connect w))
    (disconnects : ∀ caller, P (Connection.disconnect w caller)) (starts : P startPolling)
    (stops : ∀ caller, P (stopPolling caller))
    (begins : act = .autoReconnectBegin → P Connection.autoReconnectBegin)
    (attempts : act = .autoReconnectAttempt → P (Connection.autoReconnectAttempt w)) :
    P (Acts.perform w act) := by
  cases act with
  | connect => exact has_drop basis.toClosed connects
  | disconnect caller => exact disconnects caller
  | reconnect =>
      exact has_drop basis.toClosed (basis.bind (disconnects .user) fun _ => connects)
  | startPolling => exact starts
  | stopPolling caller => exact stops caller
  | setAutoReconnect enabled => exact basis.aside fun _ => ⟨⟨rfl, rfl, rfl, rfl, id⟩, rfl, rfl⟩
  | autoReconnectBegin => exact begins rfl
  | autoReconnectAttempt => exact attempts rfl
  | event event => exact has_doMeanwhile basis event
  | subscribe topic messageIdentifier resumeStrategy instanceIdentifier =>
      exact has_drop basis.toClosed (has_sendSubscriptionRequest basis.toCore _ _ _ _)
  | unsubscribe topic messageIdentifier =>
      exact has_drop basis.toClosed (has_sendUnsubscriptionRequest basis.toCore _ _)
  | commit offset => exact has_commitMessage basis.toCore offset

theorem has_operation (operation : Operation)
    (calls : ∀ {α : Type} (x : Session.Manager.SessionM α), P (callSession w x))
    (acts : ∀ act, operation = .act act → P (Acts.perform w act))
    (wants : ∀ present, operation = .setConnectionStateCallback present →
      P (modify fun c => { c with connectionStateCallback := present })) :
    P (perform w operation) := by
  cases operation with
  | act act => exact acts act rfl
  | setMessageCallback present => exact basis.aside fun _ => ⟨⟨rfl, rfl, rfl, rfl, id⟩, rfl, rfl⟩
  | setConnectionStateCallback present => exact wants present rfl
  | setErrorCallback present => exact basis.aside fun _ => ⟨⟨rfl, rfl, rfl, rfl, id⟩, rfl, rfl⟩
  | setInstanceIdentifier instanceId => exact basis.aside fun _ => ⟨⟨rfl, rfl, rfl, rfl, id⟩, rfl, rfl⟩
  | publishOrder order => exact has_drop basis.toClosed (has_publishOrder basis order)
  | publishOrderToTopic order topic =>
      exact has_drop basis.toClosed (has_publishOrderToTopic basis order topic)
  | publishMessage messageType payload headers =>
      exact has_drop basis.toClosed (has_publishMessage basis messageType payload headers)
  | publishMessageToTopic messageType payload headers topic =>
      exact has_drop basis.toClosed (has_publishMessageToTopic basis messageType payload headers topic)
  | sendCommitRequest topic =>
      exact has_drop basis.toClosed (has_sendCommitRequest basis fun _ _ _ _ _ _ => calls _)
  | sendCommitOffset offset =>
      exact has_drop basis.toClosed (has_sendCommitOffset basis.toCore offset)
  | resumeFromLastCommit topic messageIdentifier =>
      exact has_drop basis.toClosed (has_resumeFromLastCommit basis topic messageIdentifier)
  | keepalive => exact has_drop basis.toClosed (calls _)

end Parts

section Sessions

variable {Q : SessionState → SessionState → Prop} [IsPreorder SessionState Q] {w : World}

theorem holds_sendCommitRequest (respects : Respects Q)
    (sent : ∀ config world frame, Within (On Q) (sendRawMessage config world frame))
    (topic : StdString) : Within (Holds Q) (sendCommitRequest w topic) :=
  has_sendCommitRequest (basis_holds respects) fun _ _ _ _ _ _ =>
    holds_callSession respects (sent _ _ _)

/-- Every operation relates the sessions before and after it, commit requests apart. -/
theorem holds_perform (respects : Respects Q) {operation : Operation}
    (other : ∀ topic, operation ≠ .sendCommitRequest topic) :
    Within (Holds Q) (perform w operation) := by
  have basis : Basis w (Within (Holds Q)) := basis_holds respects
  have drop {α : Type} {x : ClientM α} (held : Within (Holds Q) x) :
      Within (Holds Q) (do let _ ← x) := has_drop closed_within held
  cases operation with
  | act act => exact SessionEffects.holds_perform respects act
  | setMessageCallback present => exact holds_modify fun _ => rfl
  | setConnectionStateCallback present => exact holds_modify fun _ => rfl
  | setErrorCallback present => exact holds_modify fun _ => rfl
  | setInstanceIdentifier instanceId => exact holds_modify fun _ => rfl
  | publishOrder order => exact drop (has_publishOrder basis order)
  | publishOrderToTopic order topic => exact drop (has_publishOrderToTopic basis order topic)
  | publishMessage messageType payload headers =>
      exact drop (has_publishMessage basis messageType payload headers)
  | publishMessageToTopic messageType payload headers topic =>
      exact drop (has_publishMessageToTopic basis messageType payload headers topic)
  | sendCommitRequest topic => exact absurd rfl (other topic)
  | sendCommitOffset offset => exact drop (has_sendCommitOffset basis.toCore offset)
  | resumeFromLastCommit topic messageIdentifier =>
      exact drop (has_resumeFromLastCommit basis topic messageIdentifier)
  | keepalive => exact drop (holds_callSession respects (respects.sendKeepalive _))

end Sessions

end AeronClusterClient.Client.Operations
