/- module: AeronClusterClient/Client/Programs
   generality: every property of computations that sequencing, throwing and catching keep
   digest: The programs of a client, taken apart once into what they are made of. -/

import AeronClusterClient.Client.Connection

/-!
A frame, an exception that is never raised, an invariant of the session: such
facts hold of a program if they hold of its parts. The parts are the same each
time, so the programs are taken apart here for an arbitrary property of
computations.
-/

set_option autoImplicit false
set_option relaxedAutoImplicit false

namespace AeronClusterClient.Client.Programs

open Lib.Action Lib.Bytes Client.State Client.Frames Client.Subscriptions Client.Delivery
open Client.Connection
open Commit.Manager (CommitOffset buildCommitOffsetMessage)
open Sbe.Parser (ParseResult)
open Session.Manager (Notice SessionM publishMessage sendCombinedMessage)
open Text (StdString)

/-- A property of computations that the constructs of a program keep. -/
structure Closed (P : ∀ {α : Type}, ClientM α → Prop) : Prop where
  pure : ∀ {α : Type} (a : α), P (pure a)
  get : P get
  throwException : ∀ {α : Type} (what : StdString), P (throwException what : ClientM α)
  bind : ∀ {α β : Type} {x : ClientM α} {f : α → ClientM β}, P x → (∀ a, P (f a)) → P (x >>= f)
  catchException : ∀ {α : Type} {x : ClientM α} {handler : StdString → ClientM α},
    P x → (∀ what, P (handler what)) → P (catchException x handler)

/-- A write that leaves the session, the polling loop and the connection state alone, and at most
lets the next loss be reported again. -/
structure Aside (c after : Impl) : Prop where
  session : after.sessionManager.session = c.sessionManager.session
  polling : after.polling = c.polling
  connectionState : after.connectionState = c.connectionState
  suppressed : after.suppressDisconnectNotifications = c.suppressDisconnectNotifications
  notified : after.disconnectNotified = true → c.disconnectNotified = true

/-- What belongs to the auto-reconnect thread. -/
def reconnects (c : Impl) := (c.autoReconnectScheduled, c.autoReconnectThread, c.scheduleCalls)

/-- What the user has been told of the connection state, and whether the user wants to be told. -/
def announcements (c : Impl) := (c.changes, c.connectionStateCallback)

/-- A write that leaves the auto-reconnect thread and these alone as well. -/
structure Idle (c after : Impl) : Prop extends Aside c after where
  reconnects : reconnects after = reconnects c
  announcements : announcements after = announcements c

/-- In addition, it holds of the writes that matter to nobody else, and of what a client asks of its
session manager between two calls of `disconnect`. -/
structure Core (w : World) (P : ∀ {α : Type}, ClientM α → Prop) : Prop extends Closed P where
  aside : ∀ {f : Impl → Impl}, (∀ c, Idle c (f c)) → P (modify f)
  connect : ∀ config, P (callSession w (Session.Connect.connect config w.session))
  publishMessage : ∀ config topic messageType messageId payload headers,
    P (callSession w (publishMessage config w.session topic messageType messageId payload headers))
  sendCommitOffset : ∀ config json clientId offset timestamp stamp frame,
    buildCommitOffsetMessage json clientId offset timestamp stamp = .ok frame →
      P (callSession w (sendCombinedMessage config w.session frame))

/-- In addition, it holds of what a client does when it is told of something. -/
structure Basis (w : World) (P : ∀ {α : Type}, ClientM α → Prop) : Prop extends Core w P where
  notifyConnectionLoss : ∀ reason allowAutoReconnect,
    P (notifyConnectionLoss w reason allowAutoReconnect)
  handleSessionEvent : ∀ result, P (handleSessionEvent w result)
  handleAeronError : ∀ message, P (handleAeronError w message)
  event : ∀ event, P (callSession w (Session.Manager.update fun s => s.apply event))

theorem closed_within {R : Impl → Impl → Prop} [IsPreorder Impl R] : Closed (Within R) where
  pure := within_pure
  get := within_get
  throwException := fun _ => within_throw _
  bind := within_bind
  catchException := within_catchException

variable {w : World} {P : ∀ {α : Type}, ClientM α → Prop} {α : Type}

section Constructs

theorem has_ite {p : Prop} [Decidable p] {x y : ClientM α} (first : P x) (second : P y) : P (if p then x else y) := by
  split
  · exact first
  · exact second

theorem has_orThrow (closed : Closed P) (x : Except StdString α) : P (orThrow x : ClientM α) := by
  cases x with
  | ok a => exact closed.pure a
  | error what => exact closed.throwException what

theorem has_forM (closed : Closed P) {items : List α} {f : α → ClientM PUnit}
    (each : ∀ a ∈ items, P (f a)) : P (items.forM f) := by
  induction items with
  | nil => exact closed.pure _
  | cons a items ih =>
      exact closed.bind (each a List.mem_cons_self)
        (fun _ => ih fun b among => each b (List.mem_cons_of_mem a among))

theorem has_drop (closed : Closed P) {x : ClientM α} (first : P x) : P (do let _ ← x) :=
  closed.bind first fun _ => closed.pure _

theorem has_throwIfDriverTerminated (closed : Closed P) : P throwIfDriverTerminated := by
  unfold throwIfDriverTerminated
  exact closed.bind closed.get fun c => has_ite (closed.pure _) (closed.throwException _)

theorem has_ensureConnectedOrThrow (closed : Closed P) : P ensureConnectedOrThrow := by
  unfold ensureConnectedOrThrow
  refine closed.bind (has_throwIfDriverTerminated closed) fun _ => ?_
  exact closed.bind closed.get fun c => has_ite (closed.throwException _) (closed.pure _)

end Constructs

section Parts

variable (core : Core w P)
include core

theorem has_answer (answers : Nat → α) : P (answer answers) := by
  unfold answer
  refine core.bind core.get fun c => core.bind ?_ fun _ => core.pure _
  exact core.aside fun _ => ⟨⟨rfl, rfl, rfl, rfl, id⟩, rfl, rfl⟩

theorem has_callUser {call : Called} (other : call.change? = none) : P (callUser w call) := by
  unfold callUser
  refine core.bind (core.aside fun c => ⟨⟨rfl, rfl, rfl, rfl, id⟩, rfl, ?_⟩) fun _ => ?_
  · simp [announcements, Impl.changes, other]
  · exact core.bind (has_answer core _) (has_orThrow core.toClosed)

theorem has_callErrorCallback (text : StdString) : P (callErrorCallback w text) := by
  unfold callErrorCallback
  exact core.bind core.get fun c => has_ite (has_callUser core rfl) (core.pure _)

theorem has_publishOrThrow (topic messageType messageId payload headers failure : StdString) :
    P (publishOrThrow w topic messageType messageId payload headers failure) := by
  unfold publishOrThrow
  refine core.bind (core.aside fun _ => ⟨⟨rfl, rfl, rfl, rfl, id⟩, rfl, rfl⟩) fun _ => ?_
  refine core.bind core.get fun c => core.bind (core.publishMessage _ _ _ _ _ _) fun sent => ?_
  exact has_ite (core.bind core.get fun c => core.throwException _) (core.pure _)

theorem has_publishRequest (messageType messageId : StdString) (payload : Json.Value)
    (failure : StdString) : P (publishRequest w messageType messageId payload failure) := by
  unfold publishRequest
  exact has_publishOrThrow core _ _ _ _ _ _

theorem has_countSent : P countSent := core.aside fun _ => ⟨⟨rfl, rfl, rfl, rfl, id⟩, rfl, rfl⟩

theorem has_sendSubscriptionRequest
    (topic messageIdentifier resumeStrategy instanceIdentifier : StdString) :
    P (sendSubscriptionRequest w topic messageIdentifier resumeStrategy instanceIdentifier) := by
  unfold sendSubscriptionRequest
  refine core.bind (has_ensureConnectedOrThrow core.toClosed) fun _ => ?_
  refine core.bind (has_answer core _) fun messageId => core.bind core.get fun c => ?_
  refine core.bind (has_publishRequest core _ _ _ _) fun _ => ?_
  refine core.bind (core.aside fun _ => ⟨⟨rfl, rfl, rfl, rfl, id⟩, rfl, rfl⟩) fun _ => ?_
  exact core.bind (has_countSent core) fun _ => core.pure _

theorem has_sendUnsubscriptionRequest (topic messageIdentifier : StdString) :
    P (sendUnsubscriptionRequest w topic messageIdentifier) := by
  unfold sendUnsubscriptionRequest
  refine core.bind (has_ensureConnectedOrThrow core.toClosed) fun _ => ?_
  refine core.bind (has_answer core _) fun messageId => ?_
  refine core.bind (has_publishRequest core _ _ _ _) fun _ => ?_
  refine core.bind (core.aside fun _ => ⟨⟨rfl, rfl, rfl, rfl, id⟩, rfl, rfl⟩) fun _ => ?_
  exact core.bind (has_countSent core) fun _ => core.pure _

theorem has_sendCommitOffset (offset : CommitOffset) : P (sendCommitOffset w offset) := by
  unfold sendCommitOffset
  refine core.bind (has_throwIfDriverTerminated core.toClosed) fun _ => ?_
  refine core.bind core.get fun c => has_ite (core.pure _) ?_
  refine core.bind (has_answer core _) fun timestamp => ?_
  refine core.bind (has_answer core _) fun stamp => ?_
  cases built : buildCommitOffsetMessage w.json offset.messageIdentifier offset timestamp stamp with
  | error what => exact core.throwException what
  | ok frame =>
      simp only [orThrow, pure_bind]
      refine core.bind (core.aside fun _ => ⟨⟨rfl, rfl, rfl, rfl, id⟩, rfl, rfl⟩) fun _ => ?_
      exact core.sendCommitOffset _ _ _ _ _ _ _ built

theorem has_commitMessage (offset : CommitOffset) : P (commitMessage w offset) := by
  unfold commitMessage
  refine core.bind (core.aside fun _ => ⟨⟨rfl, rfl, rfl, rfl, id⟩, rfl, rfl⟩) fun _ => ?_
  exact core.bind (has_sendCommitOffset core offset) fun _ => core.pure _

theorem has_resumeRecord (record : SubscriptionRecord) : P (resumeRecord w record) := by
  unfold resumeRecord
  refine core.bind core.get fun c => ?_
  cases c.commitManager.getLastCommit record.topic record.messageIdentifier with
  | some lastCommit =>
      exact core.bind (has_sendCommitOffset core lastCommit) fun _ => core.pure _
  | none =>
      refine core.catchException ?_ fun _ => core.pure _
      exact core.bind (has_sendSubscriptionRequest core _ _ _ _) fun _ => core.pure _

theorem has_resumeSubscribedTopics : P (resumeSubscribedTopics w) := by
  unfold resumeSubscribedTopics
  exact core.bind core.get fun c =>
    has_forM core.toClosed fun record _ => has_resumeRecord core record

theorem has_processMessage (result : ParseResult) : P (processMessage w result) := by
  have called : P (callMessageCallback w result) := by
    unfold callMessageCallback
    refine core.bind core.get fun c => has_ite ?_ (core.pure _)
    refine core.catchException ?_ fun _ => core.pure _
    exact core.bind (has_callUser core rfl) fun _ => core.pure _
  have acknowledged (alreadyProcessed : Bool) : P (acknowledge w alreadyProcessed result) := by
    unfold acknowledge autoCommit
    refine core.bind (core.aside fun c => ?_) fun _ => ?_
    · cases alreadyProcessed with
      | true => exact ⟨⟨rfl, rfl, rfl, rfl, id⟩, rfl, rfl⟩
      | false => exact ⟨⟨rfl, rfl, rfl, rfl, id⟩, rfl, rfl⟩
    · exact core.bind core.get fun c => has_ite (has_commitMessage core _) (core.pure _)
  unfold processMessage
  refine core.bind core.get fun c => ?_
  refine core.bind (has_ite (core.pure _) called) fun callbackSuccess => ?_
  exact has_ite (acknowledged _) (core.pure _)

theorem has_handleIncomingMessage {mem : Memory} {data length : Nat}
    (told : ∀ result reads, (Sbe.Parser.parseMessage mem w.json data length).run [] =
      .ok result reads → P (handleSessionEvent w result)) :
    P (handleIncomingMessage w mem data length) := by
  unfold handleIncomingMessage parse
  refine core.catchException ?_ fun _ => has_callErrorCallback core _
  cases parsed : (Sbe.Parser.parseMessage mem w.json data length).run [] with
  | error what reads => exact core.throwException what
  | ok result reads =>
      dsimp only
      rw [pure_bind]
      refine has_ite ?_ (core.pure _)
      unfold handleParsedMessage
      refine core.bind (has_ite ?_ (core.pure _)) fun _ => has_processMessage core result
      exact told result reads parsed

theorem has_initializeAeron : P (initializeAeron w) := by
  unfold initializeAeron
  cases w.connectAeron with
  | ok _ => exact core.bind (core.aside fun _ => ⟨⟨rfl, rfl, rfl, rfl, id⟩, rfl, rfl⟩) fun _ => core.pure _
  | error what => exact core.pure _

theorem has_createEgressSubscription : P (createEgressSubscription w) := by
  unfold createEgressSubscription
  cases w.addSubscription with
  | ok subscription =>
      exact core.bind (core.aside fun _ => ⟨⟨rfl, rfl, rfl, rfl, id⟩, rfl, rfl⟩) fun _ => core.pure _
  | error what => exact core.pure _

theorem has_pause (happens : ∀ n, ∀ event ∈ w.meanwhile n, P (doMeanwhile w event)) :
    P (pause w) := by
  have caught (n : Nat) : P ((w.meanwhile n).forM fun event =>
      catchException (doMeanwhile w event) fun _ => return ()) :=
    has_forM core.toClosed fun event among =>
      core.catchException (happens n event among) fun _ => core.pure _
  unfold pause answer
  simp only [bind_assoc, pure_bind]
  refine core.bind core.get fun c => core.bind ?_ fun _ => caught _
  exact core.aside fun _ => ⟨⟨rfl, rfl, rfl, rfl, id⟩, rfl, rfl⟩

theorem has_openSession (paused : P (pause w)) : P (openSession w) := by
  unfold openSession
  refine core.bind paused fun _ => core.bind (has_createEgressSubscription core) fun created => ?_
  refine has_ite (core.pure _) (core.bind paused fun _ => core.bind core.get fun c => ?_)
  refine core.bind (core.connect _) fun result => ?_
  exact core.bind paused fun _ => core.pure _

theorem has_enterSession (paused : P (pause w)) (result : Session.Connect.SessionConnectionResult) :
    P (enterSession w result) := by
  unfold enterSession
  refine core.bind (core.aside fun _ => ⟨⟨rfl, rfl, rfl, rfl, nofun⟩, rfl, rfl⟩) fun _ => ?_
  refine core.bind paused fun _ => core.bind (has_resumeSubscribedTopics core) fun _ => ?_
  refine core.bind paused fun _ => ?_
  exact core.aside fun _ => ⟨⟨rfl, rfl, rfl, rfl, id⟩, rfl, rfl⟩

end Parts

section Events

variable (basis : Basis w P)
include basis

theorem has_doMeanwhile (event : Meanwhile) : P (doMeanwhile w event) := by
  cases event with
  | session event => exact basis.event event
  | images count => exact basis.aside fun _ => ⟨⟨rfl, rfl, rfl, rfl, id⟩, rfl, rfl⟩
  | connectionLost reason => exact basis.notifyConnectionLoss _ _
  | delivered mem data length =>
      exact has_handleIncomingMessage basis.toCore fun result _ _ => basis.handleSessionEvent result
  | driverError message => exact basis.handleAeronError message

theorem Basis.pause : P (pause w) :=
  has_pause basis.toCore fun _ event _ => has_doMeanwhile basis event

end Events

section Notifications

/-- A write of a notification: it leaves the session, the subscriptions and the count of the messages
that have been sent as they are. -/
structure Notes (c after : Impl) : Prop where
  session : after.sessionManager.session = c.sessionManager.session
  subscriptions : after.subscriptions = c.subscriptions
  messagesSent : after.stats.messagesSent = c.stats.messagesSent

/-- It holds of the writes that notifications are made of, and of asking for a reconnect. -/
structure Noting (P : ∀ {α : Type}, ClientM α → Prop) : Prop extends Closed P where
  notes : ∀ {f : Impl → Impl}, (∀ c, Notes c (f c)) → (∀ c, reconnects (f c) = reconnects c) →
    P (modify f)
  schedules : ∀ reason, P (scheduleAutoReconnect reason)

/-- Asking for a reconnect is made of such writes as well, if it does not matter to whom the
reconnect belongs. -/
theorem Noting.of_notes (closed : Closed P)
    (notes : ∀ {f : Impl → Impl}, (∀ c, Notes c (f c)) → P (modify f)) : Noting P where
  toClosed := closed
  notes := fun noted _ => notes noted
  schedules := by
    intro reason
    unfold scheduleAutoReconnect
    refine closed.bind (notes fun _ => ⟨rfl, rfl, rfl⟩) fun _ => closed.bind closed.get fun c => ?_
    refine has_ite (closed.pure _) (has_ite (closed.pure _) ?_)
    exact notes fun _ => ⟨rfl, rfl, rfl⟩

variable (noting : Noting P)
include noting

theorem noted_answer (answers : Nat → α) : P (answer answers) := by
  unfold answer
  refine noting.bind noting.get fun c => noting.bind ?_ fun _ => noting.pure _
  exact noting.notes (fun _ => ⟨rfl, rfl, rfl⟩) fun _ => rfl

theorem noted_callUser (call : Called) : P (callUser w call) := by
  unfold callUser
  refine noting.bind (noting.notes (fun _ => ⟨rfl, rfl, rfl⟩) fun _ => rfl) fun _ => ?_
  exact noting.bind (noted_answer noting _) (has_orThrow noting.toClosed)

theorem noted_callErrorCallback (text : StdString) : P (callErrorCallback w text) := by
  unfold callErrorCallback
  exact noting.bind noting.get fun c => has_ite (noted_callUser noting _) (noting.pure _)

theorem noted_setConnectionState (newState : ConnectionState) : P (setConnectionState w newState) := by
  unfold setConnectionState
  refine noting.bind noting.get fun c => ?_
  refine noting.bind (noting.notes (fun _ => ⟨rfl, rfl, rfl⟩) fun _ => rfl) fun _ => ?_
  exact noting.bind noting.get fun c => has_ite (noted_callUser noting _) (noting.pure _)

theorem noted_notifyConnectionLoss (reason : StdString) (allowAutoReconnect : Bool) :
    P (notifyConnectionLoss w reason allowAutoReconnect) := by
  unfold notifyConnectionLoss
  refine noting.bind noting.get fun c => has_ite (noting.pure _) (has_ite (noting.pure _) ?_)
  refine noting.bind (noting.notes (fun _ => ⟨rfl, rfl, rfl⟩) fun _ => rfl) fun _ => ?_
  refine noting.bind (noted_setConnectionState noting _) fun _ => ?_
  refine noting.bind (noted_callErrorCallback noting reason) fun _ => noting.bind noting.get fun c => ?_
  exact has_ite (noting.schedules reason) (noting.pure _)

theorem noted_onSessionEvent (event : ParseResult) : P (onSessionEvent w event) := by
  have lost (reason : StdString) (allowAutoReconnect : Bool) :
      P (notifyConnectionLoss w reason allowAutoReconnect) :=
    noted_notifyConnectionLoss noting reason allowAutoReconnect
  unfold onSessionEvent
  refine has_ite (noting.notes (fun _ => ⟨rfl, rfl, rfl⟩) fun _ => rfl) (has_ite (lost _ _) ?_)
  exact has_ite (lost _ _) (has_ite (lost _ _) (noting.pure _))

theorem noted_onSessionConnectionStateChanged (connected : Bool) :
    P (onSessionConnectionStateChanged w connected) := by
  unfold onSessionConnectionStateChanged
  refine noting.bind (noting.notes (fun _ => ⟨rfl, rfl, rfl⟩) fun _ => rfl) fun _ => ?_
  refine has_ite (noting.notes (fun _ => ⟨rfl, rfl, rfl⟩) fun _ => rfl) ?_
  exact noted_notifyConnectionLoss noting _ _

theorem noted_onNotice (notice : Notice) : P (onNotice w notice) := by
  cases notice with
  | connectionState connected => exact noted_onSessionConnectionStateChanged noting connected
  | sessionEvent result => exact noted_onSessionEvent noting result

theorem noted_onEventNotice (notice : Notice) : P (onEventNotice w notice) := by
  cases notice with
  | connectionState connected => exact noted_onSessionConnectionStateChanged noting connected
  | sessionEvent result =>
      exact noting.catchException (noted_onSessionEvent noting result) fun _ => noting.pure _

theorem noted_handleAeronError
    (closes : ∀ config, P (callSession w (Session.Manager.disconnect config w.session)))
    (message : StdString) : P (handleAeronError w message) := by
  unfold handleAeronError
  refine noting.bind (noting.notes (fun _ => ⟨rfl, rfl, rfl⟩) fun _ => rfl) fun _ => noting.bind noting.get fun c => ?_
  refine has_ite (noting.pure _) (noting.bind (noting.notes (fun _ => ⟨rfl, rfl, rfl⟩) fun _ => rfl) fun _ => ?_)
  refine noting.bind noting.get fun c => ?_
  refine noting.bind ?_ fun _ => noted_notifyConnectionLoss noting _ _
  refine noting.catchException ?_ fun _ => noting.pure _
  exact noting.bind (noting.notes (fun _ => ⟨rfl, rfl, rfl⟩) fun _ => rfl) fun _ => closes _

end Notifications

section Catchable

variable {handler : StdString → ClientM α}

/-- What the computation throws is a `std::exception`. -/
def Catchable (x : ClientM α) : Prop :=
  ∀ c raised after, x.run c = .error raised after → ∃ what, raised = .exception what

theorem catchable_of_returns {x : ClientM α} (returns : ∀ c, ∃ a after, x.run c = .ok a after) :
    Catchable x := by
  intro c raised after thrown
  obtain ⟨a, mid, run⟩ := returns c
  rw [run] at thrown
  cases thrown

theorem closed_catchable : Closed Catchable where
  pure := fun a => catchable_of_returns fun c => ⟨a, c, rfl⟩
  get := catchable_of_returns fun c => ⟨c, c, rfl⟩
  throwException := by
    rintro α what c raised after ⟨⟩
    exact ⟨what, rfl⟩
  bind := by
    intro α β x f first rest c raised after thrown
    rw [EStateM.run_bind] at thrown
    cases run : x.run c with
    | ok a mid =>
        rw [run] at thrown
        exact rest a mid raised after thrown
    | error e mid =>
        rw [run] at thrown
        cases thrown
        exact first c raised after run
  catchException := by
    intro α x handler first rest c raised after thrown
    cases run : x.run c with
    | ok a mid =>
        rw [catchException_of_ok run] at thrown
        cases thrown
    | error e mid =>
        obtain ⟨what, rfl⟩ := first c e mid run
        rw [catchException_of_exception run] at thrown
        exact rest what mid raised after thrown

theorem noting_catchable : Noting Catchable :=
  .of_notes closed_catchable fun {f} _ => catchable_of_returns fun c => ⟨(), f c, rfl⟩

theorem catchable_runSession (x : SessionM α) : Catchable (runSession x) := by
  intro c raised after thrown
  cases run : x.run c.sessionManager with
  | ok a m =>
      rw [runSession_of_ok run] at thrown
      cases thrown
  | error what m =>
      rw [runSession_of_error run] at thrown
      cases thrown
      exact ⟨what, rfl⟩

theorem catchable_takeNotices : Catchable takeNotices := catchable_of_returns fun _ => ⟨_, _, rfl⟩

theorem catchable_callSession (x : SessionM α) : Catchable (callSession w x) := by
  unfold callSession
  refine closed_catchable.bind (catchable_runSession x) fun a => ?_
  refine closed_catchable.bind catchable_takeNotices fun notices => ?_
  refine closed_catchable.bind (has_forM closed_catchable fun notice _ => ?_) fun _ =>
    closed_catchable.pure _
  exact closed_catchable.catchException (noted_onNotice noting_catchable notice) fun _ =>
    closed_catchable.pure _

/-- Only replacing the polling thread ends the process. -/
theorem basis_catchable : Basis w Catchable where
  toClosed := closed_catchable
  aside := fun _ => catchable_of_returns fun _ => ⟨_, _, rfl⟩
  notifyConnectionLoss := noted_notifyConnectionLoss noting_catchable
  handleSessionEvent := by
    intro result
    unfold handleSessionEvent
    refine closed_catchable.bind closed_catchable.get fun c => ?_
    refine closed_catchable.bind (catchable_runSession _) fun _ => ?_
    refine closed_catchable.bind catchable_takeNotices fun notices => ?_
    exact has_forM closed_catchable fun notice _ => noted_onEventNotice noting_catchable notice
  handleAeronError := noted_handleAeronError noting_catchable fun _ => catchable_callSession _
  event := fun _ => catchable_callSession _
  connect := fun _ => catchable_callSession _
  publishMessage := fun _ _ _ _ _ _ => catchable_callSession _
  sendCommitOffset := fun _ _ _ _ _ _ _ _ => catchable_callSession _

theorem total_catchException {x : ClientM α} (catchable : Catchable x) (a : α) :
    Total (catchException x fun _ => pure a) := by
  intro c
  cases run : x.run c with
  | ok b after => exact ⟨b, after, catchException_of_ok run⟩
  | error raised after =>
      obtain ⟨what, rfl⟩ := catchable c raised after run
      exact ⟨a, after, catchException_of_exception run⟩

theorem total_pause : Total (pause w) := by
  unfold pause
  refine total_bind (fun _ => ⟨_, _, rfl⟩) fun events => total_forM fun event => ?_
  exact total_catchException (has_doMeanwhile basis_catchable event) ()

theorem total_callSession {x : SessionM α} (total : Total x) : Total (callSession w x) := by
  have noticed (notice : Notice) : Total (catchException (onNotice w notice) fun _ => pure ()) :=
    total_catchException (noted_onNotice noting_catchable notice) ()
  intro c
  obtain ⟨a, m, run⟩ := total c.sessionManager
  rw [callSession_of_ok run]
  exact total_bind (total_forM noticed) (fun _ => total_pure a) _

end Catchable

end AeronClusterClient.Client.Programs
