/- module: AeronClusterClient/Client/State
   source: src/cluster_client.cpp (ClusterClient::Impl), include/aeron_cluster/cluster_client.hpp
   digest: The client: its state, its user callbacks, connection losses and the polling thread. -/

import AeronClusterClient.Commit.Manager
import AeronClusterClient.Session.Connect

/-!
A client is driven by its user's threads, by its polling thread, by the
auto-reconnect thread and by the error handler of the Aeron driver. Each call
is a computation over `Impl`; what the library cannot decide by itself (the
user's callbacks, Aeron, the clock, the order of a hash container) is answered
by a `World`.
-/

set_option autoImplicit false
set_option relaxedAutoImplicit false

namespace AeronClusterClient.Client.State

open Lib.Action Lib.Bytes Lib.Unordered Sbe.Parser Session.Manager
open Commit.Manager (CommitManager CommitOffset)
open Config (ClusterClientConfig ConnectionStats)
open Json (Jsoncpp)
open Text (StdString ascii stdToString)

inductive ConnectionState
  | disconnected
  | connecting
  | connected
  | reconnecting
  | failed
  deriving DecidableEq, Repr

structure SubscriptionRecord where
  topic : StdString
  messageIdentifier : StdString
  resumeStrategy : StdString
  instanceIdentifier : StdString
  deriving DecidableEq, Repr

/-- What the client hands to the session manager: a message to publish, a frame for the envelope, or
a frame that is offered as it is. -/
inductive Handed
  | publish (topic messageType messageId payload headers : StdString)
  | combined (frame : List UInt8)
  | raw (frame : List UInt8)
  deriving DecidableEq, Repr

inductive Called
  | message (result : ParseResult)
  | connectionState (old new : ConnectionState)
  | error (text : StdString)
  deriving DecidableEq, Repr

def Called.message? : Called → Option ParseResult
  | .message result => some result
  | _ => none

def Called.change? : Called → Option (ConnectionState × ConnectionState)
  | .connectionState old new => some (old, new)
  | _ => none

/-- What happened to the polling loop: it was started, or its flag was cleared
without a join, or its thread was joined. -/
inductive PollingEvent
  | started
  | cleared
  | joined
  deriving DecidableEq, Repr

/-- `polling_active_` and `polling_thread_`, with the history of the loop, newest first. -/
structure Polling where
  active : Bool := false
  joinable : Bool := false
  history : List PollingEvent := []
  /-- `std::terminate` has been called. -/
  terminated : Bool := false
  deriving DecidableEq, Repr

inductive Caller
  | user
  | polling
  | driver
  | autoReconnect
  deriving DecidableEq, Repr

/-- The fields of `ClusterClient::Impl`, with a record of its calls and of what it hands on. -/
structure Impl where
  config : ClusterClientConfig
  sessionManager : Machine := { session := {} }
  aeron : Bool := false
  /-- The number of images of the egress subscription, if there is one. -/
  egressSubscription : Option Nat := none
  commitManager : CommitManager := {}
  connectionState : ConnectionState := .disconnected
  stats : ConnectionStats := {}
  autoReconnectEnabled : Bool := false
  reconnectInProgress : Bool := false
  disconnectNotified : Bool := false
  suppressDisconnectNotifications : Bool := false
  fatalErrorDetected : Bool := false
  fatalErrorMessage : StdString := []
  messageCallback : Bool := false
  connectionStateCallback : Bool := false
  errorCallback : Bool := false
  polling : Polling := {}
  /-- The reason of an auto-reconnect thread that has been created and not yet run. -/
  autoReconnectScheduled : Option StdString := none
  /-- The attempts made and the reason of the auto-reconnect thread that is running. -/
  autoReconnectThread : Option (Nat × StdString) := none
  subscriptionMessageIdentifiers : AList (fun _ : StdString => StdString) := ∅
  processedMessages : Finset StdString := ∅
  subscribedTopics : Finset StdString := ∅
  trackedSubscriptions : AList (fun _ : StdString => SubscriptionRecord) := ∅
  handed : List Handed := []
  called : List Called := []
  /-- The offsets `commit_message` has stored, in order. -/
  stored : List CommitOffset := []
  /-- The reasons that `schedule_auto_reconnect` has been called with, in order. -/
  scheduleCalls : List StdString := []

/-- The part of a client that only subscription requests change. -/
structure Subscriptions where
  config : ClusterClientConfig
  subscriptionMessageIdentifiers : AList (fun _ : StdString => StdString)
  subscribedTopics : Finset StdString
  trackedSubscriptions : AList (fun _ : StdString => SubscriptionRecord)

def Impl.subscriptions (c : Impl) : Subscriptions :=
  ⟨c.config, c.subscriptionMessageIdentifiers, c.subscribedTopics, c.trackedSubscriptions⟩

/-- The constructor; an empty instance identifier is replaced by a generated one. -/
def Impl.construct (config : ClusterClientConfig) (generated : StdString) : Impl :=
  { config :=
      { config with
        instanceIdentifier :=
          if config.instanceIdentifier.isEmpty then generated else config.instanceIdentifier } }

/-- What ends a computation early: a `std::exception`, or `std::terminate`, which nothing catches. -/
inductive Raised
  | exception (what : StdString)
  | terminate
  deriving DecidableEq, Repr

abbrev ClientM := EStateM Raised Impl

/-- Something that other threads do while a connect call is under way. -/
inductive Meanwhile
  | session (event : Event)
  | images (count : Nat)
  | connectionLost (reason : StdString)
  | delivered (mem : Memory) (data length : Nat)
  | driverError (message : StdString)

/-- Everything a client does not decide itself during one call. Answers that a call may need
more than once are indexed by the number of questions asked so far. -/
structure World where
  json : Jsoncpp
  /-- The order in which hash containers with string keys enumerate. -/
  order : Enumeration StdString
  session : Session.Manager.World := {}
  connectAeron : Except StdString Unit := .ok ()
  /-- `addSubscription`, and the images of the subscription when it is found in time. -/
  addSubscription : Except StdString (Option Nat) := .ok (some 1)
  /-- How a call of a user callback ends. -/
  callback : Nat → Except StdString Unit := fun _ => .ok ()
  messageId : Nat → StdString := fun _ => ascii "msg_1700000000000000000_12345"
  nowNanos : Nat → Nat := fun _ => 0
  meanwhile : Nat → List Meanwhile := fun _ => []

/-- The enumeration of strings in lexicographic order. -/
def lexicographic : Enumeration StdString :=
  .sortedBy (List.map UInt8.toNat) (List.map_injective_iff.mpr fun _ _ => UInt8.toNat.inj)

def catchException {α : Type} (x : ClientM α) (handler : StdString → ClientM α) : ClientM α :=
  tryCatch x (fun
    | .exception what => handler what
    | .terminate => throw .terminate)

def throwException {α : Type} (what : StdString) : ClientM α := throw (.exception what)

def answer {α : Type} (answers : Nat → α) : ClientM α := do
  let n := (← get).sessionManager.looks
  modify (fun c => { c with sessionManager.looks := n + 1 })
  return answers n

def orThrow {α : Type} : Except StdString α → ClientM α
  | .ok a => return a
  | .error what => throwException what

namespace Impl

variable (c : Impl)

/-- The messages the message callback has been called with, in order. -/
def messages : List ParseResult := c.called.filterMap Called.message?

/-- The changes of the connection state that the user has been told of, in order. -/
def changes : List (ConnectionState × ConnectionState) := c.called.filterMap Called.change?

/-- `is_connected`: the client's own state, the session, and the egress images if there are any to count. -/
def isConnected : Bool :=
  c.connectionState == .connected && c.sessionManager.session.isConnected &&
    match c.egressSubscription with
    | some images => 0 < images
    | none => true

def buildPublishFailureMessage (baseMessage : StdString) : StdString :=
  let s := c.sessionManager.session
  if !s.lastOfferErrorMessage.isEmpty then baseMessage ++ ascii ": " ++ s.lastOfferErrorMessage
  else if s.lastOfferErrorCode ≠ 0 then
    baseMessage ++ ascii ": Aeron code " ++ stdToString s.lastOfferErrorCode
  else baseMessage

end Impl

section Guards

def throwIfDriverTerminated : ClientM Unit := do
  let c ← get
  if !c.fatalErrorDetected then return ()
  let message := if c.fatalErrorMessage.isEmpty then ascii "MediaDriver is no longer available"
    else c.fatalErrorMessage
  throwException (ascii "Aeron driver failure: " ++ message)

def ensureConnectedOrThrow : ClientM Unit := do
  throwIfDriverTerminated
  if !(← get).isConnected then throwException (ascii "Client is not connected to cluster")

def clearDriverErrorState : ClientM Unit :=
  modify (fun c => { c with fatalErrorDetected := false, fatalErrorMessage := [] })

end Guards

section Notifications

variable (w : World)

def callUser (call : Called) : ClientM Unit := do
  modify (fun c => { c with called := c.called ++ [call] })
  orThrow (← answer w.callback)

def callErrorCallback (text : StdString) : ClientM Unit := do
  if (← get).errorCallback then callUser w (.error text)

/-- The new state is stored before the callback sees the change. -/
def setConnectionState (newState : ConnectionState) : ClientM Unit := do
  let oldState := (← get).connectionState
  modify (fun c => { c with connectionState := newState })
  if oldState ≠ newState && (← get).connectionStateCallback then
    callUser w (.connectionState oldState newState)

def scheduleAutoReconnect (reason : StdString) : ClientM Unit := do
  modify (fun c => { c with scheduleCalls := c.scheduleCalls ++ [reason] })
  let c ← get
  if !c.autoReconnectEnabled then return ()
  if c.reconnectInProgress then return ()
  -- the previous thread is joined, so the new one runs after it
  modify (fun c => { c with reconnectInProgress := true, autoReconnectScheduled := some reason })

/-- `polling_active_ = false`, which leaves the thread object as it is. -/
def Polling.clear (p : Polling) : Polling :=
  { p with
    active := false
    history := if p.active then .cleared :: p.history else p.history }

/-- Joining the polling thread, once its flag is false. -/
def Polling.join (p : Polling) : Polling :=
  { p with active := false, joinable := false, history := .joined :: p.history }

def notifyConnectionLoss (reason : StdString) (allowAutoReconnect : Bool) : ClientM Unit := do
  let c ← get
  if c.suppressDisconnectNotifications then return ()
  if c.disconnectNotified then return ()
  modify (fun c =>
    { c with
      disconnectNotified := true
      stats.isConnected := false
      stats.currentSessionId := -1
      stats.currentLeaderId := -1
      polling := c.polling.clear })
  setConnectionState w .disconnected
  callErrorCallback w reason
  if allowAutoReconnect && (← get).autoReconnectEnabled then scheduleAutoReconnect reason

def onSessionEvent (event : ParseResult) : ClientM Unit := do
  let because (reason : StdString) : StdString :=
    if event.errorMessage.isEmpty then reason else reason ++ ascii ": " ++ event.errorMessage
  if event.eventCode = SESSION_EVENT_REDIRECT then
    modify (fun c => { c with stats.currentLeaderId := event.leaderMemberId })
  else if event.eventCode = SESSION_EVENT_CLOSED then
    notifyConnectionLoss w (because (ascii "Cluster session closed")) true
  else if event.eventCode = SESSION_EVENT_ERROR then
    notifyConnectionLoss w (because (ascii "Cluster session error")) true
  else if event.eventCode = SESSION_EVENT_AUTHENTICATION_REJECTED then
    notifyConnectionLoss w (because (ascii "Cluster session authentication rejected")) false
  else return ()

def onSessionConnectionStateChanged (connected : Bool) : ClientM Unit := do
  modify (fun c => { c with stats.isConnected := connected })
  if connected then modify (fun c => { c with disconnectNotified := false })
  else notifyConnectionLoss w (ascii "Cluster session disconnected") true

def onNotice : Notice → ClientM Unit
  | .connectionState connected => onSessionConnectionStateChanged w connected
  | .sessionEvent result => onSessionEvent w result

/-- Take the callbacks the session manager has made since the last time. -/
def takeNotices : ClientM (List Notice) := do
  let notices := (← get).sessionManager.session.notices
  modify (fun c => { c with sessionManager.session.notices := [] })
  return notices

def runSession {α : Type} (x : SessionM α) : ClientM α := fun c =>
  match x.run c.sessionManager with
  | .ok a m => .ok a { c with sessionManager := m }
  | .error what m => .error (.exception what) { c with sessionManager := m }

/-- A call of the session manager. Its callbacks run inside its own `try` blocks, or on
another thread, so what they throw stops there. -/
def callSession {α : Type} (x : SessionM α) : ClientM α := do
  let a ← runSession x
  (← takeNotices).forM (fun notice => catchException (onNotice w notice) (fun _ => return ()))
  return a

/-- A callback made by `SessionManager::handle_session_event`. The one for session events runs in
a `try` block of its own. -/
def onEventNotice : Notice → ClientM Unit
  | .connectionState connected => onSessionConnectionStateChanged w connected
  | .sessionEvent result => catchException (onSessionEvent w result) (fun _ => return ())

/-- `SessionManager::handle_session_event` as the polling thread calls it, with the callbacks that
it makes. -/
def handleSessionEvent (result : ParseResult) : ClientM Unit := do
  let made := (← get).sessionManager.session.notices.length
  runSession (update (fun s => s.handleSessionEvent result))
  ((← takeNotices).drop made).forM (onEventNotice w)

end Notifications

section PollingThread

/-- Assigning a new thread to a `std::thread` that is joinable calls `std::terminate`. -/
def startPolling : ClientM Unit := do
  if (← get).polling.active then return ()
  if (← get).polling.joinable then
    modify (fun c => { c with polling.active := true, polling.terminated := true })
    throw .terminate
  modify (fun c =>
    { c with polling :=
        { c.polling with
          active := true
          joinable := true
          history := .started :: c.polling.history } })

/-- `stop_polling`: the polling thread cannot join itself. -/
def stopPolling (caller : Caller) : ClientM Unit :=
  modify (fun c =>
    { c with polling :=
        if c.polling.joinable && caller ≠ .polling then c.polling.join else c.polling.clear })

end PollingThread

end AeronClusterClient.Client.State
