/- module: AeronClusterClient/Client/Moves
   generality: every reflexive and transitive relation between clients that their moves respect
   digest: The calls into a client, taken apart once into the moves that send, deliver or reconnect. -/

import AeronClusterClient.Client.Operations

/-!
Most of what a client writes is of no concern to what it has sent, to the
messages it has delivered or to its auto-reconnect thread. A relation that only
looks at these is respected by a call if it is respected by the few moves of
the call that are of concern.
-/

set_option autoImplicit false
set_option relaxedAutoImplicit false

namespace AeronClusterClient.Client.Moves

open Lib.Action Lib.Bytes
open Client.State Client.Frames Client.Subscriptions Client.Delivery Client.Connection
open Client.Operations
open Client.Programs (reconnects)
open Commit.Manager (CommitOffset)
open Orders (Order)
open Sbe.Parser (ParseResult)
open Session.Manager (Notice SessionM sendRawMessage)
open Text (StdString)

section Writes

/-- What the setters of a client set, its instance identifier apart. -/
def choices (c : Impl) :=
  (c.autoReconnectEnabled, c.messageCallback, c.connectionStateCallback, c.errorCallback)

/-- A write that is of no concern, whatever it does to the auto-reconnect thread and to what the user
has chosen. -/
structure Threads (c after : Impl) : Prop where
  session : after.sessionManager.session = c.sessionManager.session
  messagesSent : after.stats.messagesSent = c.stats.messagesSent
  messages : after.messages = c.messages
  processedMessages : after.processedMessages = c.processedMessages

/-- A write that is of no concern at all. -/
structure Plain (c after : Impl) : Prop extends Threads c after where
  reconnects : reconnects after = reconnects c
  choices : choices after = choices c

/-- Such a write that counts a message. -/
structure Counts (c after : Impl) : Prop where
  sessionManager : after.sessionManager = c.sessionManager
  messagesSent : after.stats.messagesSent = c.stats.messagesSent + 1
  messages : after.messages = c.messages
  processedMessages : after.processedMessages = c.processedMessages
  reconnects : reconnects after = reconnects c
  choices : choices after = choices c

/-- What follows a message that has been published: it is counted and its id returned. -/
def Books (messageId : StdString) (rest : Unit → ClientM StdString) : Prop :=
  ∀ c, ∃ after, (rest ()).run c = .ok messageId after ∧ Counts c after

/-- The moves that are of concern respect the relation, and so do the writes that are not. -/
structure Respected (w : World) (R : Impl → Impl → Prop) : Prop where
  plain : ∀ {c after}, Plain c after → R c after
  announces : ∀ newState, Within R (setConnectionState w newState)
  connects : ∀ config, Within R (callSession w (Session.Connect.connect config w.session))
  disconnects : ∀ config, Within R (callSession w (Session.Manager.disconnect config w.session))
  publishes : ∀ {topic messageType messageId payload headers failure}
    {rest : Unit → ClientM StdString}, Books messageId rest →
      Within R (publishOrThrow w topic messageType messageId payload headers failure >>= rest)
  commits : ∀ offset, Within R (sendCommitOffset w offset)
  requests : ∀ config frame, Within R (callSession w (sendRawMessage config w.session frame))
  keepalives : Within R (keepalive w)
  pauses : Within R (pause w)

variable {w : World} {R : Impl → Impl → Prop} [IsPreorder Impl R] {α : Type}

theorem publishes_of_parts {topic messageType messageId payload headers failure : StdString}
    {rest : Unit → ClientM StdString}
    (publish : Within R (publishOrThrow w topic messageType messageId payload headers failure))
    (count : ∀ {c after}, Counts c after → R c after) (books : Books messageId rest) :
    Within R (publishOrThrow w topic messageType messageId payload headers failure >>= rest) := by
  refine within_bind publish fun _ c => ?_
  obtain ⟨after, run, counts⟩ := books c
  rw [finalState_of_ok run]
  exact count counts

end Writes

section Hearing

/-- A write that neither counts a message nor touches the choices and the auto-reconnect thread. -/
structure Kept (c after : Impl) : Prop where
  messagesSent : after.stats.messagesSent = c.stats.messagesSent
  reconnects : reconnects after = reconnects c
  choices : choices after = choices c

/-- Such writes respect the relation, and so does asking for a reconnect that is wanted. -/
structure Hears (R : Impl → Impl → Prop) : Prop where
  kept : ∀ {c after}, Kept c after → R c after
  asks : ∀ reason {c}, c.autoReconnectEnabled = true → R c (finalState (scheduleAutoReconnect reason) c)

variable {w : World} {R : Impl → Impl → Prop} {α : Type}

theorem Hears.write (hears : Hears R) {f : Impl → Impl} (kept : ∀ c, Kept c (f c)) :
    Within R (modify f : ClientM Unit) :=
  within_modify fun c => hears.kept (kept c)

theorem hears_runSession (hears : Hears R) (x : SessionM α) : Within R (runSession x) := by
  intro c
  cases run : x.run c.sessionManager with
  | ok a m =>
      rw [finalState_of_ok (runSession_of_ok run)]
      exact hears.kept ⟨rfl, rfl, rfl⟩
  | error what m =>
      rw [finalState_of_error (runSession_of_error run)]
      exact hears.kept ⟨rfl, rfl, rfl⟩

theorem hears_stopPolling (hears : Hears R) (caller : Caller) : Within R (stopPolling caller) :=
  hears.write fun _ => ⟨rfl, rfl, rfl⟩

variable [IsPreorder Impl R] (hears : Hears R)
include hears

theorem hears_answer (answers : Nat → α) : Within R (answer answers) := by
  unfold answer
  refine within_bind within_get fun c => within_bind ?_ fun _ => within_pure _
  exact hears.write fun _ => ⟨rfl, rfl, rfl⟩

theorem hears_callUser (call : Called) : Within R (callUser w call) := by
  unfold callUser
  refine within_bind (hears.write fun _ => ⟨rfl, rfl, rfl⟩) fun _ => ?_
  exact within_bind (hears_answer hears _) within_orThrow

theorem hears_callErrorCallback (text : StdString) : Within R (callErrorCallback w text) := by
  unfold callErrorCallback
  exact within_bind within_get fun c => within_ite (hears_callUser hears _) (within_pure _)

theorem hears_setConnectionState (newState : ConnectionState) :
    Within R (setConnectionState w newState) := by
  unfold setConnectionState
  refine within_bind within_get fun c => within_bind (hears.write fun _ => ⟨rfl, rfl, rfl⟩) fun _ => ?_
  exact within_bind within_get fun c => within_ite (hears_callUser hears _) (within_pure _)

theorem hears_notifyConnectionLoss (reason : StdString) (allowAutoReconnect : Bool) :
    Within R (notifyConnectionLoss w reason allowAutoReconnect) := by
  unfold notifyConnectionLoss
  refine within_bind within_get fun c => within_ite (within_pure _) (within_ite (within_pure _) ?_)
  refine within_bind (hears.write fun _ => ⟨rfl, rfl, rfl⟩) fun _ => ?_
  refine within_bind (hears_setConnectionState hears _) fun _ => ?_
  refine within_bind (hears_callErrorCallback hears _) fun _ => within_get_bind fun c => ?_
  split
  · rename_i wanted
    exact hears.asks reason (Bool.and_eq_true_iff.mp wanted).2
  · exact refl_of R c

theorem hears_onSessionEvent (event : ParseResult) : Within R (onSessionEvent w event) := by
  have lost (reason : StdString) (allowAutoReconnect : Bool) :
      Within R (notifyConnectionLoss w reason allowAutoReconnect) :=
    hears_notifyConnectionLoss hears reason allowAutoReconnect
  unfold onSessionEvent
  refine within_ite (hears.write fun _ => ⟨rfl, rfl, rfl⟩) (within_ite (lost _ _) ?_)
  exact within_ite (lost _ _) (within_ite (lost _ _) (within_pure _))

theorem hears_onNotice (notice : Notice) : Within R (onNotice w notice) := by
  cases notice with
  | connectionState connected =>
      change Within R (onSessionConnectionStateChanged w connected)
      unfold onSessionConnectionStateChanged
      refine within_bind (hears.write fun _ => ⟨rfl, rfl, rfl⟩) fun _ => ?_
      exact within_ite (hears.write fun _ => ⟨rfl, rfl, rfl⟩) (hears_notifyConnectionLoss hears _ _)
  | sessionEvent result => exact hears_onSessionEvent hears result

theorem hears_takeNotices : Within R takeNotices := by
  unfold takeNotices
  refine within_bind within_get fun c => within_bind ?_ fun _ => within_pure _
  exact hears.write fun _ => ⟨rfl, rfl, rfl⟩

theorem hears_callSession (x : SessionM α) : Within R (callSession w x) := by
  unfold callSession
  refine within_bind (hears_runSession hears x) fun a => within_bind (hears_takeNotices hears) fun notices => ?_
  refine within_bind (within_forM fun notice _ => ?_) fun _ => within_pure _
  exact within_catchException (hears_onNotice hears notice) fun _ => within_pure _

theorem hears_handleSessionEvent (result : ParseResult) :
    Within R (handleSessionEvent w result) := by
  have told (notice : Notice) : Within R (onEventNotice w notice) := by
    cases notice with
    | connectionState connected => exact hears_onNotice hears (.connectionState connected)
    | sessionEvent event =>
        exact within_catchException (hears_onSessionEvent hears event) fun _ => within_pure _
  unfold handleSessionEvent
  refine within_bind within_get fun c => within_bind (hears_runSession hears _) fun _ => ?_
  exact within_bind (hears_takeNotices hears) fun notices => within_forM fun notice _ => told notice

theorem hears_publishOrThrow (topic messageType messageId payload headers failure : StdString) :
    Within R (publishOrThrow w topic messageType messageId payload headers failure) := by
  unfold publishOrThrow
  refine within_bind (hears.write fun _ => ⟨rfl, rfl, rfl⟩) fun _ => within_bind within_get fun c => ?_
  refine within_bind (hears_callSession hears _) fun sent => within_ite ?_ (within_pure _)
  exact within_bind within_get fun c => within_throw _

theorem hears_sendCommitOffset (offset : CommitOffset) :
    Within R (sendCommitOffset w offset) := by
  unfold sendCommitOffset
  refine within_bind (Programs.has_throwIfDriverTerminated Programs.closed_within) fun _ => ?_
  refine within_bind within_get fun c => within_ite (within_pure _) ?_
  refine within_bind (hears_answer hears _) fun timestamp => within_bind (hears_answer hears _) fun stamp => ?_
  refine within_bind (within_orThrow _) fun frame => ?_
  exact within_bind (hears.write fun _ => ⟨rfl, rfl, rfl⟩) fun _ => hears_callSession hears _

theorem hears_commitMessage (offset : CommitOffset) : Within R (commitMessage w offset) := by
  unfold commitMessage
  refine within_bind (hears.write fun _ => ⟨rfl, rfl, rfl⟩) fun _ => ?_
  exact within_bind (hears_sendCommitOffset hears offset) fun _ => within_pure _

theorem hears_processMessage (result : ParseResult) : Within R (processMessage w result) := by
  have called : Within R (callMessageCallback w result) := by
    unfold callMessageCallback
    refine within_bind within_get fun c => within_ite ?_ (within_pure _)
    refine within_catchException ?_ fun _ => within_pure _
    exact within_bind (hears_callUser hears _) fun _ => within_pure _
  have acknowledged (alreadyProcessed : Bool) : Within R (acknowledge w alreadyProcessed result) := by
    unfold acknowledge autoCommit
    refine within_bind (hears.write fun c => ?_) fun _ => ?_
    · cases alreadyProcessed with
      | true => exact ⟨rfl, rfl, rfl⟩
      | false => exact ⟨rfl, rfl, rfl⟩
    · exact within_bind within_get fun c => within_ite (hears_commitMessage hears _) (within_pure _)
  unfold processMessage
  refine within_bind within_get fun c => ?_
  refine within_bind (within_ite (within_pure _) called) fun callbackSuccess => ?_
  exact within_ite (acknowledged _) (within_pure _)

theorem hears_handleIncomingMessage (mem : Memory) (data length : Nat) :
    Within R (handleIncomingMessage w mem data length) := by
  have parsed : Within R (parse w mem data length) := by
    unfold parse
    split
    · exact within_pure _
    · exact within_throw _
  have handled (result : ParseResult) : Within R (handleParsedMessage w result) := by
    unfold handleParsedMessage
    refine within_bind ?_ fun _ => hears_processMessage hears result
    exact within_ite (hears_handleSessionEvent hears result) (within_pure _)
  unfold handleIncomingMessage
  refine within_catchException ?_ fun _ => hears_callErrorCallback hears _
  exact within_bind parsed fun result => within_ite (handled result) (within_pure _)

theorem hears_handleAeronError (message : StdString) : Within R (handleAeronError w message) := by
  unfold handleAeronError
  refine within_bind (hears.write fun _ => ⟨rfl, rfl, rfl⟩) fun _ => within_bind within_get fun c => ?_
  refine within_ite (within_pure _) (within_bind (hears.write fun _ => ⟨rfl, rfl, rfl⟩) fun _ => ?_)
  refine within_bind within_get fun c => within_bind ?_ fun _ => hears_notifyConnectionLoss hears _ _
  refine within_catchException ?_ fun _ => within_pure _
  exact within_bind (hears_stopPolling hears _) fun _ => hears_callSession hears _

theorem hears_doMeanwhile (event : Meanwhile) : Within R (doMeanwhile w event) := by
  cases event with
  | session event => exact hears_callSession hears _
  | images count => exact hears.write fun _ => ⟨rfl, rfl, rfl⟩
  | connectionLost reason => exact hears_notifyConnectionLoss hears _ _
  | delivered mem data length => exact hears_handleIncomingMessage hears mem data length
  | driverError message => exact hears_handleAeronError hears message

theorem hears_pause : Within R (pause w) := by
  unfold pause
  refine within_bind (hears_answer hears _) fun events => within_forM fun event _ => ?_
  exact within_catchException (hears_doMeanwhile hears event) fun _ => within_pure _

end Hearing

section Parts

variable {w : World} {R : Impl → Impl → Prop} {α : Type}

theorem Respected.write (respected : Respected w R) {f : Impl → Impl} (plain : ∀ c, Plain c (f c)) :
    Within R (modify f : ClientM Unit) :=
  within_modify fun c => respected.plain (plain c)

theorem Respected.stopPolling (respected : Respected w R) (caller : Caller) :
    Within R (stopPolling caller) :=
  respected.write fun _ => ⟨⟨rfl, rfl, rfl, rfl⟩, rfl, rfl⟩

variable [IsPreorder Impl R] (respected : Respected w R)
include respected

theorem Respected.answer (answers : Nat → α) : Within R (answer answers) := by
  unfold State.answer
  refine within_bind within_get fun c => within_bind ?_ fun _ => within_pure _
  exact respected.write fun _ => ⟨⟨rfl, rfl, rfl, rfl⟩, rfl, rfl⟩

theorem Respected.sendSubscriptionRequest
    (topic messageIdentifier resumeStrategy instanceIdentifier : StdString) :
    Within R
      (sendSubscriptionRequest w topic messageIdentifier resumeStrategy instanceIdentifier) := by
  unfold Subscriptions.sendSubscriptionRequest
  refine within_bind (Programs.has_ensureConnectedOrThrow Programs.closed_within) fun _ => ?_
  refine within_bind (respected.answer _) fun messageId => within_bind within_get fun c => ?_
  dsimp only
  unfold publishRequest
  exact respected.publishes fun c => ⟨_, rfl, rfl, rfl, rfl, rfl, rfl, rfl⟩

theorem Respected.sendUnsubscriptionRequest (topic messageIdentifier : StdString) :
    Within R (sendUnsubscriptionRequest w topic messageIdentifier) := by
  unfold Subscriptions.sendUnsubscriptionRequest
  refine within_bind (Programs.has_ensureConnectedOrThrow Programs.closed_within) fun _ => ?_
  refine within_bind (respected.answer _) fun messageId => ?_
  unfold publishRequest
  exact respected.publishes fun c => ⟨_, rfl, rfl, rfl, rfl, rfl, rfl, rfl⟩

theorem Respected.resumeSubscribedTopics : Within R (resumeSubscribedTopics w) := by
  unfold Subscriptions.resumeSubscribedTopics
  refine within_bind within_get fun c => within_forM fun record _ => ?_
  unfold resumeRecord
  refine within_bind within_get fun c => ?_
  cases c.commitManager.getLastCommit record.topic record.messageIdentifier with
  | some lastCommit => exact within_bind (respected.commits lastCommit) fun _ => within_pure _
  | none =>
      refine within_catchException ?_ fun _ => within_pure _
      exact within_bind (respected.sendSubscriptionRequest _ _ _ _) fun _ => within_pure _

theorem Respected.startPolling : Within R startPolling := by
  unfold State.startPolling
  refine within_bind within_get fun c => within_ite (within_pure _) ?_
  refine within_bind within_get fun c => within_ite ?_ ?_
  · exact within_bind (respected.write fun _ => ⟨⟨rfl, rfl, rfl, rfl⟩, rfl, rfl⟩) fun _ => within_throw _
  · exact respected.write fun _ => ⟨⟨rfl, rfl, rfl, rfl⟩, rfl, rfl⟩

theorem Respected.suppressingNotifications {body : ClientM Unit} (within : Within R body) :
    Within R (suppressingNotifications body) := by
  have flag (suppress : Bool) : Within R
      (modify fun c => { c with suppressDisconnectNotifications := suppress } : ClientM Unit) :=
    respected.write fun _ => ⟨⟨rfl, rfl, rfl, rfl⟩, rfl, rfl⟩
  unfold Connection.suppressingNotifications
  refine within_bind (flag true) fun _ => within_bind (within_tryCatch within fun raised => ?_) fun _ =>
    flag false
  exact within_bind (flag false) fun _ => within_throw _

theorem Respected.closeSession : Within R (closeSession w) := by
  unfold Connection.closeSession
  exact within_bind within_get fun c => respected.disconnects _

theorem Respected.disconnect (caller : Caller) : Within R (disconnect w caller) := by
  unfold Connection.disconnect releaseAeron
  refine within_bind within_get fun c => respected.suppressingNotifications ?_
  refine within_bind respected.closeSession fun _ => within_ite ?_ (within_pure _)
  refine within_bind (respected.stopPolling _) fun _ => within_bind (respected.announces _) fun _ => ?_
  exact within_bind (respected.write fun _ => ⟨⟨rfl, rfl, rfl, rfl⟩, rfl, rfl⟩) fun _ =>
    respected.write fun _ => ⟨⟨rfl, rfl, rfl, rfl⟩, rfl, rfl⟩

theorem Respected.openSession : Within R (openSession w) := by
  have subscribed : Within R (createEgressSubscription w) := by
    unfold createEgressSubscription
    cases w.addSubscription with
    | ok subscription =>
        exact within_bind (respected.write fun _ => ⟨⟨rfl, rfl, rfl, rfl⟩, rfl, rfl⟩) fun _ => within_pure _
    | error what => exact within_pure _
  unfold Connection.openSession
  refine within_bind respected.pauses fun _ => within_bind subscribed fun created => ?_
  refine within_ite (within_pure _) (within_bind respected.pauses fun _ => within_bind within_get fun c => ?_)
  exact within_bind (respected.connects _) fun result => within_bind respected.pauses fun _ => within_pure _

theorem Respected.enterSession (result : Session.Connect.SessionConnectionResult) :
    Within R (enterSession w result) := by
  unfold Connection.enterSession clearDriverErrorState
  refine within_bind (respected.write fun _ => ⟨⟨rfl, rfl, rfl, rfl⟩, rfl, rfl⟩) fun _ => ?_
  refine within_bind respected.pauses fun _ => within_bind respected.resumeSubscribedTopics fun _ => ?_
  exact within_bind respected.pauses fun _ => respected.write fun _ => ⟨⟨rfl, rfl, rfl, rfl⟩, rfl, rfl⟩

theorem Respected.connect : Within R (connect w) := by
  have failed : Within R (do setConnectionState w .failed; return false) :=
    within_bind (respected.announces _) fun _ => within_pure _
  have initialized : Within R (initializeAeron w) := by
    unfold initializeAeron
    cases w.connectAeron with
    | ok _ =>
        exact within_bind (respected.write fun _ => ⟨⟨rfl, rfl, rfl, rfl⟩, rfl, rfl⟩) fun _ => within_pure _
    | error what => exact within_pure _
  unfold Connection.connect
  refine within_bind within_get fun c => within_ite (within_pure _) ?_
  refine within_bind (respected.announces _) fun _ => within_catchException ?_ fun _ => failed
  unfold connectSteps
  refine within_bind (respected.write fun _ => ⟨⟨rfl, rfl, rfl, rfl⟩, rfl, rfl⟩) fun _ => ?_
  refine within_bind initialized fun ready => within_ite failed ?_
  refine within_bind respected.startPolling fun _ => within_bind respected.openSession fun opened => ?_
  cases opened with
  | none => exact failed
  | some result =>
      refine within_bind (respected.enterSession result) fun _ => ?_
      exact within_bind (respected.announces _) fun _ => within_pure _

end Parts

section Calls

/-- The setters, and the turns of the auto-reconnect thread. -/
def Sets : Operation → Prop
  | .act (.setAutoReconnect _) | .act .autoReconnectBegin | .act .autoReconnectAttempt => True
  | .setMessageCallback _ | .setConnectionStateCallback _ | .setErrorCallback _ => True
  | _ => False

variable {w : World} {R : Impl → Impl → Prop} [IsPreorder Impl R] (respected : Respected w R)
include respected

theorem Respected.act {act : Acts.Act} (other : ¬ Sets (.act act))
    (happens : ∀ event, act = .event event → Within R (doMeanwhile w event)) :
    Within R (Acts.perform w act) := by
  cases act with
  | setAutoReconnect _ | autoReconnectBegin | autoReconnectAttempt => exact absurd trivial other
  | connect => exact within_bind respected.connect fun _ => within_pure _
  | disconnect caller => exact respected.disconnect caller
  | reconnect =>
      refine within_bind ?_ fun _ => within_pure _
      exact within_bind (respected.disconnect .user) fun _ => respected.connect
  | startPolling => exact respected.startPolling
  | stopPolling caller => exact respected.stopPolling caller
  | event event => exact happens event rfl
  | subscribe topic messageIdentifier resumeStrategy instanceIdentifier =>
      exact within_bind (respected.sendSubscriptionRequest _ _ _ _) fun _ => within_pure _
  | unsubscribe topic messageIdentifier =>
      exact within_bind (respected.sendUnsubscriptionRequest _ _) fun _ => within_pure _
  | commit offset =>
      refine within_bind (respected.write fun _ => ⟨⟨rfl, rfl, rfl, rfl⟩, rfl, rfl⟩) fun _ => ?_
      exact within_bind (respected.commits offset) fun _ => within_pure _

theorem Respected.publishOrderOn (topic : StdString) (order : Order) :
    Within R (publishOrderOn w topic order) := by
  unfold Operations.publishOrderOn
  cases order.validate with
  | nil =>
      refine within_bind (respected.answer _) fun messageId => ?_
      exact respected.publishes fun c => ⟨_, rfl, rfl, rfl, rfl, rfl, rfl, rfl⟩
  | cons error errors => exact within_throw _

theorem Respected.publishMessageOn (topic messageType payload headers : StdString) :
    Within R (publishMessageOn w topic messageType payload headers) := by
  unfold Operations.publishMessageOn
  refine within_bind (respected.answer _) fun messageId => ?_
  exact respected.publishes fun c => ⟨_, rfl, rfl, rfl, rfl, rfl, rfl, rfl⟩

theorem Respected.sendCommitRequest (topic : StdString) : Within R (sendCommitRequest w topic) := by
  unfold Operations.sendCommitRequest
  refine within_bind (Programs.has_throwIfDriverTerminated Programs.closed_within) fun _ => ?_
  refine within_bind within_get fun c => within_ite (within_pure _) ?_
  refine within_bind (respected.answer _) fun timestamp => ?_
  refine within_bind (respected.answer _) fun stamp => ?_
  refine within_bind (within_orThrow _) fun frame => ?_
  refine within_bind (respected.write fun _ => ⟨⟨rfl, rfl, rfl, rfl⟩, rfl, rfl⟩) fun _ => ?_
  exact respected.requests _ _

theorem Respected.resumeFromLastCommit (topic messageIdentifier : StdString) :
    Within R (resumeFromLastCommit w topic messageIdentifier) := by
  unfold Operations.resumeFromLastCommit
  refine within_bind (Programs.has_throwIfDriverTerminated Programs.closed_within) fun _ => ?_
  refine within_bind within_get fun c => within_ite (within_pure _) ?_
  cases c.commitManager.getLastCommit topic messageIdentifier with
  | none => exact within_bind (respected.sendSubscriptionRequest _ _ _ _) fun _ => within_pure _
  | some lastCommit => exact respected.commits lastCommit

/-- Every operation but these respects the relation. -/
theorem Respected.perform {operation : Operation} (other : ¬ Sets operation)
    (happens : ∀ event, operation = .act (.event event) → Within R (doMeanwhile w event)) :
    Within R (perform w operation) := by
  have drop {α : Type} {x : ClientM α} (within : Within R x) : Within R (do let _ ← x) :=
    within_bind within fun _ => within_pure _
  have guarded {f : ClientM StdString} (sends : Within R f) :
      Within R (do ensureConnectedOrThrow; f) :=
    within_bind (Programs.has_ensureConnectedOrThrow Programs.closed_within) fun _ => sends
  have onTopic (topic : StdString) {f : ClientM StdString} (sends : Within R f) :
      Within R (do throwIfTopicEmpty topic; f) :=
    within_bind (has_throwIfTopicEmpty Programs.closed_within topic) fun _ => sends
  cases operation with
  | act act => exact respected.act other fun event same => happens event (same ▸ rfl)
  | setMessageCallback _ | setConnectionStateCallback _ | setErrorCallback _ =>
      exact absurd trivial other
  | setInstanceIdentifier instanceId =>
      exact respected.write fun _ => ⟨⟨rfl, rfl, rfl, rfl⟩, rfl, rfl⟩
  | publishOrder order =>
      exact drop (guarded (within_bind within_get fun c => respected.publishOrderOn _ order))
  | publishOrderToTopic order topic =>
      exact drop (guarded (onTopic topic (respected.publishOrderOn topic order)))
  | publishMessage messageType payload headers =>
      exact drop (guarded (within_bind within_get fun c => respected.publishMessageOn _ _ _ _))
  | publishMessageToTopic messageType payload headers topic =>
      exact drop (guarded (onTopic topic (respected.publishMessageOn topic _ _ _)))
  | sendCommitRequest topic => exact drop (respected.sendCommitRequest topic)
  | sendCommitOffset offset => exact drop (respected.commits offset)
  | resumeFromLastCommit topic messageIdentifier =>
      exact drop (respected.resumeFromLastCommit topic messageIdentifier)
  | keepalive => exact drop respected.keepalives

end Calls

section Threads

/-- So do the setters, and the writes of the auto-reconnect thread. -/
structure Throughout (w : World) (R : Impl → Impl → Prop) : Prop extends Respected w R where
  threads : ∀ {c after}, Threads c after → R c after
  errors : ∀ text, Within R (callErrorCallback w text)

variable {w : World} {R : Impl → Impl → Prop} [IsPreorder Impl R] (throughout : Throughout w R)
include throughout

theorem Throughout.autoReconnectBegin : Within R autoReconnectBegin := by
  unfold Connection.autoReconnectBegin
  refine within_bind within_get fun c => ?_
  split
  · refine within_bind (within_modify fun _ => throughout.threads ⟨rfl, rfl, rfl, rfl⟩) fun _ => ?_
    exact throughout.stopPolling _
  · exact within_pure _

theorem Throughout.autoReconnectAttempt : Within R (autoReconnectAttempt w) := by
  have write {f : Impl → Impl} (threads : ∀ c, Threads c (f c)) : Within R (modify f : ClientM Unit) :=
    within_modify fun c => throughout.threads (threads c)
  unfold Connection.autoReconnectAttempt
  refine within_bind within_get fun c => ?_
  split
  · exact within_pure _
  · refine within_ite ?_ ?_
    · unfold autoReconnectGiveUp
      refine within_bind (write fun _ => ⟨rfl, rfl, rfl, rfl⟩) fun _ => within_bind within_get fun c => ?_
      exact within_ite (throughout.errors _) (within_pure _)
    · unfold reconnectOnce
      refine within_bind (throughout.suppressingNotifications ?_) fun _ => ?_
      · exact within_catchException throughout.closeSession fun _ => within_pure _
      · refine within_bind (write fun _ => ⟨rfl, rfl, rfl, rfl⟩) fun _ => ?_
        refine within_bind throughout.connect fun won => ?_
        refine within_ite (write fun _ => ⟨rfl, rfl, rfl, rfl⟩) ?_
        exact within_bind (throughout.stopPolling _) fun _ => write fun _ => ⟨rfl, rfl, rfl, rfl⟩

theorem Throughout.take {operation : Operation} (c : Impl)
    (happens : ∀ event, operation = .act (.event event) → Within R (doMeanwhile w event)) :
    R c (take ⟨w, operation⟩ c) := by
  have sets {after : Impl} (same : Threads c after) : R c after := throughout.threads same
  have performs (other : ¬ Sets operation) : R c (Operations.take ⟨w, operation⟩ c) :=
    throughout.perform other happens c
  cases operation with
  | act act =>
      cases act with
      | setAutoReconnect enabled => exact sets ⟨rfl, rfl, rfl, rfl⟩
      | autoReconnectBegin => exact throughout.autoReconnectBegin c
      | autoReconnectAttempt => exact throughout.autoReconnectAttempt c
      | _ => exact performs nofun
  | setMessageCallback present => exact sets ⟨rfl, rfl, rfl, rfl⟩
  | setConnectionStateCallback present => exact sets ⟨rfl, rfl, rfl, rfl⟩
  | setErrorCallback present => exact sets ⟨rfl, rfl, rfl, rfl⟩
  | _ => exact performs nofun

end Threads

end AeronClusterClient.Client.Moves
