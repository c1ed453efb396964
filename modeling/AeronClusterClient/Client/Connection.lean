/- module: AeronClusterClient/Client/Connection
   source: src/cluster_client.cpp (connect, disconnect, reconnect_async, handle_aeron_error,
   schedule_auto_reconnect), include/aeron_cluster/performance_config.hpp
   digest: Connecting and disconnecting, driver errors, and the auto-reconnect thread. -/

import AeronClusterClient.Client.Delivery

set_option autoImplicit false
set_option relaxedAutoImplicit false

namespace AeronClusterClient.Client.Connection

open Lib.Action Client.State Client.Frames Client.Subscriptions Client.Delivery
open Session.Manager (SessionState)
open Text (StdString ascii stdToString)

def MAX_RECONNECT_ATTEMPTS : Nat := 10

section Programs

variable (w : World)

/-- The first driver error stops polling, closes the session and reports the loss. -/
def handleAeronError (message : StdString) : ClientM Unit := do
  modify (fun c => { c with fatalErrorMessage := message })
  if (← get).fatalErrorDetected then return ()
  modify (fun c => { c with fatalErrorDetected := true })
  let config := (← get).config
  catchException (do
      stopPolling .driver
      callSession w (Session.Manager.disconnect config w.session))
    (fun _ => return ())
  notifyConnectionLoss w (ascii "Aeron MediaDriver error: " ++ message) false

def doMeanwhile : Meanwhile → ClientM Unit
  | .session event => callSession w (Session.Manager.update fun s => s.apply event)
  | .images count =>
      modify (fun c => { c with egressSubscription := c.egressSubscription.map fun _ => count })
  | .connectionLost reason => notifyConnectionLoss w reason true
  | .delivered mem data length => handleIncomingMessage w mem data length
  | .driverError message => handleAeronError w message

/-- A point between two steps of a connect call, at which other threads get their turn. -/
def pause : ClientM Unit := do
  (← answer w.meanwhile).forM fun event =>
    catchException (doMeanwhile w event) (fun _ => return ())

def initializeAeron : ClientM Bool := do
  match w.connectAeron with
  | .ok _ =>
      modify (fun c => { c with aeron := true })
      return true
  | .error _ => return false

def createEgressSubscription : ClientM Bool := do
  match w.addSubscription with
  | .ok subscription =>
      modify (fun c => { c with egressSubscription := subscription })
      return subscription.isSome
  | .error _ => return false

/-- From the start of the polling thread to the connect call of the session manager. -/
def openSession : ClientM (Option Session.Connect.SessionConnectionResult) := do
  pause w
  if !(← createEgressSubscription w) then return none
  pause w
  let config := (← get).config
  let (result, _) ← callSession w (Session.Connect.connect config w.session)
  pause w
  return if result.success then some result else none

/-- What follows a session that has been opened, up to the last state update. -/
def enterSession (result : Session.Connect.SessionConnectionResult) : ClientM Unit := do
  modify (fun c =>
    { c with
      stats.successfulConnections := c.stats.successfulConnections + 1
      stats.currentSessionId := result.sessionId
      stats.currentLeaderId := result.leaderMemberId
      stats.isConnected := true
      disconnectNotified := false
      reconnectInProgress := false })
  pause w
  resumeSubscribedTopics w
  pause w
  clearDriverErrorState

def connectSteps : ClientM Bool := do
  modify (fun c => { c with stats.connectionAttempts := c.stats.connectionAttempts + 1 })
  if !(← initializeAeron w) then
    setConnectionState w .failed
    return false
  startPolling
  match ← openSession w with
  | none =>
      setConnectionState w .failed
      return false
  | some result =>
      enterSession w result
      setConnectionState w .connected
      return true

/-- `connect`. It is not overlapped by another connect call. -/
def connect : ClientM Bool := do
  if (← get).connectionState = .connected then return true
  setConnectionState w .connecting
  catchException (connectSteps w) (fun _ => do
    setConnectionState w .failed
    return false)

/-- Run with the notifications of connection losses suppressed; the flag is reset in any case. -/
def suppressingNotifications (body : ClientM Unit) : ClientM Unit := do
  modify (fun c => { c with suppressDisconnectNotifications := true })
  tryCatch body (fun raised => do
    modify (fun c => { c with suppressDisconnectNotifications := false })
    throw raised)
  modify (fun c => { c with suppressDisconnectNotifications := false })

/-- `egress_subscription_.reset()` and `aeron_.reset()`. -/
def releaseAeron : ClientM Unit :=
  modify (fun c => { c with egressSubscription := none, aeron := false })

def closeSession : ClientM Unit := do
  let config := (← get).config
  callSession w (Session.Manager.disconnect config w.session)

/-- Polling is stopped and Aeron released only when the client was connected. -/
def disconnect (caller : Caller) : ClientM Unit := do
  let wasConnected := (← get).connectionState = .connected
  suppressingNotifications do
    closeSession w
    if wasConnected then
      stopPolling caller
      setConnectionState w .disconnected
      releaseAeron
      modify (fun c =>
        { c with
          stats.currentSessionId := -1
          stats.currentLeaderId := -1
          stats.isConnected := false })

/-- The task of `reconnect_async`. -/
def reconnect : ClientM Bool := do
  disconnect w .user
  connect w

/-- A scheduled auto-reconnect thread starts once the previous one is gone, and first makes
sure that the polling loop is stopped. -/
def autoReconnectBegin : ClientM Unit := do
  let c ← get
  match c.autoReconnectThread, c.autoReconnectScheduled with
  | none, some reason =>
      modify (fun c =>
        { c with autoReconnectScheduled := none, autoReconnectThread := some (0, reason) })
      stopPolling .autoReconnect
  | _, _ => return ()

def autoReconnectGiveUp (reason : StdString) : ClientM Unit := do
  modify (fun c => { c with reconnectInProgress := false, autoReconnectThread := none })
  if (← get).autoReconnectEnabled then
    callErrorCallback w (ascii "Auto-reconnect failed after " ++
      stdToString MAX_RECONNECT_ATTEMPTS ++ ascii " attempts. Reason: " ++ reason)

/-- One attempt: close what is left of the session, release Aeron and connect. -/
def reconnectOnce (made : Nat) (reason : StdString) : ClientM Unit := do
  suppressingNotifications (catchException (closeSession w) (fun _ => return ()))
  releaseAeron
  if ← connect w then
    modify (fun c =>
      { c with
        disconnectNotified := false
        reconnectInProgress := false
        autoReconnectThread := none })
  else
    stopPolling .autoReconnect
    modify (fun c => { c with autoReconnectThread := some (made + 1, reason) })

/-- One turn of the loop of the auto-reconnect thread. -/
def autoReconnectAttempt : ClientM Unit := do
  let c ← get
  match c.autoReconnectThread with
  | none => return ()
  | some (made, reason) =>
      if !c.autoReconnectEnabled || MAX_RECONNECT_ATTEMPTS ≤ made then autoReconnectGiveUp w reason
      else reconnectOnce w made reason

end Programs

section Parts

variable {w : World}

theorem disturbs_handleAeronError (message : StdString) :
    Within Disturbs (handleAeronError w message) := by
  unfold handleAeronError
  refine within_bind (disturbs_modify fun _ => rfl) fun _ => ?_
  refine within_bind within_get fun c => within_ite (within_pure _) ?_
  refine within_bind (disturbs_modify fun _ => rfl) fun _ => within_bind within_get fun c => ?_
  refine within_bind (within_catchException ?_ fun _ => within_pure _) fun _ =>
    disturbs_notifyConnectionLoss _ _
  exact within_bind (disturbs_stopPolling _) fun _ => disturbs_callSession _

theorem quiet_doMeanwhile (event : Meanwhile) : Within Quiet (doMeanwhile w event) := by
  cases event with
  | session event => exact quiet_of_disturbs (disturbs_callSession _)
  | images count => exact quiet_of_disturbs (disturbs_modify fun _ => rfl)
  | connectionLost reason => exact quiet_of_disturbs (disturbs_notifyConnectionLoss _ _)
  | delivered mem data length => exact quiet_handleIncomingMessage mem data length
  | driverError message => exact quiet_of_disturbs (disturbs_handleAeronError message)

theorem quiet_pause : Within Quiet (pause w) := by
  unfold pause
  refine within_bind (quiet_of_disturbs (disturbs_answer _)) fun events => within_forM fun event _ => ?_
  exact within_catchException (quiet_doMeanwhile event) fun _ => within_pure _

theorem disturbs_initializeAeron : Within Disturbs (initializeAeron w) := by
  unfold initializeAeron
  cases w.connectAeron with
  | ok _ => exact within_bind (disturbs_modify fun _ => rfl) fun _ => within_pure _
  | error what => exact within_pure _

theorem disturbs_createEgressSubscription : Within Disturbs (createEgressSubscription w) := by
  unfold createEgressSubscription
  cases w.addSubscription with
  | ok subscription => exact within_bind (disturbs_modify fun _ => rfl) fun _ => within_pure _
  | error what => exact within_pure _

theorem quiet_openSession : Within Quiet (openSession w) := by
  unfold openSession
  refine within_bind quiet_pause fun _ => ?_
  refine within_bind (quiet_of_disturbs disturbs_createEgressSubscription) fun created => ?_
  refine within_ite (within_pure _) ?_
  refine within_bind quiet_pause fun _ => within_bind within_get fun c => ?_
  refine within_bind (quiet_of_disturbs (disturbs_callSession _)) fun result => ?_
  exact within_bind quiet_pause fun _ => within_pure _

end Parts

section Unheard

variable {w : World} {α β : Type}

/-- A client that is not connected stays so, keeps its subscriptions and hands nothing to
the session manager. -/
def Mute (c after : Impl) : Prop :=
  c.connectionState ≠ .connected → after.connectionState ≠ .connected ∧
    after.subscriptions = c.subscriptions ∧ after.handed = c.handed

/-- The same, except that the client may be connected afterwards. -/
def Unheard (c after : Impl) : Prop :=
  c.connectionState ≠ .connected →
    after.subscriptions = c.subscriptions ∧ after.handed = c.handed

instance : IsPreorder Impl Mute where
  refl _ unconnected := ⟨unconnected, rfl, rfl⟩
  trans _ _ _ first rest unconnected := by
    obtain ⟨still, subscriptions, handed⟩ := first unconnected
    obtain ⟨last, subscriptions', handed'⟩ := rest still
    exact ⟨last, subscriptions'.trans subscriptions, handed'.trans handed⟩

theorem mute_of_quiet {x : ClientM α} (quiet : Within Quiet x) : Within Mute x :=
  quiet.mono fun _ _ h unconnected =>
    ⟨h.toSteady.unconnected unconnected, h.subscriptions, h.handed unconnected⟩

theorem mute_resumeSubscribedTopics : Within Mute (resumeSubscribedTopics w) :=
  unlessConnected_resumeSubscribedTopics.mono fun _ _ h unconnected => by
    rw [h unconnected]
    exact ⟨unconnected, rfl, rfl⟩

theorem unheard_of_mute {x : ClientM α} (mute : Within Mute x) : Within Unheard x :=
  mute.mono fun _ _ h unconnected => (h unconnected).2

theorem unheard_bind {x : ClientM α} {f : α → ClientM β} (mute : Within Mute x)
    (rest : ∀ a, Within Unheard (f a)) : Within Unheard (x >>= f) :=
  within_bind_comp mute rest (fun _ _ h unconnected => (h unconnected).2)
    fun _ _ _ first last unconnected => by
      obtain ⟨still, subscriptions, handed⟩ := first unconnected
      obtain ⟨subscriptions', handed'⟩ := last still
      exact ⟨subscriptions'.trans subscriptions, handed'.trans handed⟩

def SameRecords (c after : Impl) : Prop :=
  after.subscriptions = c.subscriptions ∧ after.handed = c.handed

instance : IsPreorder Impl SameRecords where
  refl _ := ⟨rfl, rfl⟩
  trans _ _ _ first rest := ⟨rest.1.trans first.1, rest.2.trans first.2⟩

theorem sameRecords_setConnectionState (newState : ConnectionState) :
    Within SameRecords (setConnectionState w newState) := by
  unfold setConnectionState
  refine within_bind within_get fun c => within_bind (within_modify fun _ => ⟨rfl, rfl⟩) fun _ => ?_
  refine within_bind within_get fun _ => within_ite ?_ (within_pure _)
  exact (disturbs_callUser rfl).mono fun _ _ h => ⟨h.subscriptions, h.handed⟩

theorem unheard_of_sameRecords {x : ClientM α} (same : Within SameRecords x) : Within Unheard x :=
  same.mono fun _ _ h _ => h

theorem mute_enterSession (result : Session.Connect.SessionConnectionResult) :
    Within Mute (enterSession w result) := by
  unfold enterSession
  refine within_bind (mute_of_quiet (quiet_of_disturbs (disturbs_modify fun _ => rfl))) fun _ => ?_
  refine within_bind (mute_of_quiet quiet_pause) fun _ => ?_
  refine within_bind mute_resumeSubscribedTopics fun _ => ?_
  refine within_bind (mute_of_quiet quiet_pause) fun _ => ?_
  exact mute_of_quiet (quiet_of_disturbs disturbs_clearDriverErrorState)

theorem mute_startPolling : Within Mute startPolling := by
  unfold startPolling
  refine within_bind within_get fun c => within_ite (within_pure _) ?_
  refine within_bind within_get fun c => within_ite ?_ ?_
  · exact within_bind (within_modify fun _ unconnected => ⟨unconnected, rfl, rfl⟩)
      fun _ => within_throw _
  · exact within_modify fun _ unconnected => ⟨unconnected, rfl, rfl⟩

theorem unheard_connectSteps : Within Unheard (connectSteps w) := by
  have failed : Within Mute (setConnectionState w .failed) :=
    mute_of_quiet (quiet_of_disturbs (disturbs_setConnectionState (by decide)))
  unfold connectSteps
  refine unheard_bind (mute_of_quiet (quiet_of_disturbs (disturbs_modify fun _ => rfl))) fun _ => ?_
  refine unheard_bind (mute_of_quiet (quiet_of_disturbs disturbs_initializeAeron)) fun ready => ?_
  refine within_ite (unheard_of_mute (within_bind failed fun _ => within_pure _)) ?_
  refine unheard_bind mute_startPolling fun _ => ?_
  refine unheard_bind (mute_of_quiet quiet_openSession) fun opened => ?_
  cases opened with
  | none => exact unheard_of_mute (within_bind failed fun _ => within_pure _)
  | some result =>
      refine unheard_bind (mute_enterSession result) fun _ => unheard_of_sameRecords ?_
      exact within_bind (sameRecords_setConnectionState _) fun _ => within_pure _

/-- A connect call of a client that is not connected changes no subscription and hands
nothing to the session manager, whatever its outcome. -/
theorem unheard_connect : Within Unheard (connect w) := by
  unfold connect
  refine within_get_bind fun c => ?_
  split
  · rename_i connected
    exact fun unconnected => absurd connected unconnected
  · have failed : Within SameRecords (do
        setConnectionState w .failed
        return false) :=
      within_bind (sameRecords_setConnectionState _) fun _ => within_pure _
    refine unheard_bind
      (mute_of_quiet (quiet_of_disturbs (disturbs_setConnectionState (by decide)))) (fun _ => ?_) c
    refine within_catchException_comp unheard_connectSteps (fun _ => failed) (fun _ _ h => h) ?_
    intro s t u first rest unconnected
    exact trans_of SameRecords (first unconnected) rest

end Unheard

end AeronClusterClient.Client.Connection
