/- module: AeronClusterClient/Client/StaleConnection
   source: src/cluster_client.cpp (connect, disconnect, reconnect_async, schedule_auto_reconnect)
   digest: When a client that says CONNECTED has a session that is connected. -/

import AeronClusterClient.Client.ConnectSteps
import AeronClusterClient.Client.HeardLosses
import AeronClusterClient.Client.PollingThread

/-!
A client leaves `CONNECTED` when it hears that its session is lost. It does not
hear of a loss after one that has been reported already, and a connect call
stores `CONNECTED` whatever has been heard since its handshake.
-/

set_option autoImplicit false
set_option relaxedAutoImplicit false

namespace AeronClusterClient.Client.StaleConnection

open Lib.Action Lib.Runs Client.State Client.Frames Client.Connection Client.Programs
open Client.ConnectSteps Client.HeardLosses Client.Operations Client.PollingThread
open Client.ResumeOnConnect (accepting)
open Config (ClusterClientConfig)
open Session.Connect
open Session.Established (admits_follows follows_of_same)
open Session.Updates (within_sendKeepalive within_sendRawMessage)
open Text (StdString)

variable {w : World} {c : Impl}

section Connects

theorem keepsFresh_startPolling : Within KeepsFresh startPolling := by
  unfold startPolling
  refine within_bind within_get fun c => within_ite (within_pure _) ?_
  refine within_bind within_get fun c => within_ite ?_ ?_
  · refine within_bind (within_modify fun c fresh => ?_) fun _ => within_throw _
    exact ⟨⟨fresh.heard, fresh.unnotified⟩, fresh.current⟩
  · exact within_modify fun c fresh => ⟨⟨fresh.heard, fresh.unnotified⟩, fresh.current⟩

theorem keepsFresh_stopPolling (caller : Caller) : Within KeepsFresh (stopPolling caller) :=
  within_modify fun _ fresh => ⟨⟨fresh.heard, fresh.unnotified⟩, fresh.current⟩

theorem keepsFresh_attempt : Within KeepsFresh (attempt w) := by
  unfold attempt approach
  refine within_bind ?_ fun opened => ?_
  · refine within_bind (keepsFresh_modify fun _ => ⟨rfl, rfl, rfl, rfl, id⟩) fun _ => ?_
    refine within_bind (has_initializeAeron basis_keepsFresh.toCore) fun ready => ?_
    refine within_ite (within_pure _) (within_bind keepsFresh_startPolling fun _ => ?_)
    exact has_openSession basis_keepsFresh.toCore basis_keepsFresh.pause
  · cases opened with
    | none => exact within_pure _
    | some result =>
        exact within_bind (has_enterSession basis_keepsFresh.toCore basis_keepsFresh.pause result) fun _ => within_pure _

theorem down_attempt (down : Down c) : Down (finalState (attempt w) c) :=
  ⟨(keepsFresh_attempt c down.fresh).heard, (mute_attempt c down.unconnected).1⟩

/-- If the call comes to store `CONNECTED`, the session is connected at that moment, and no loss
has been reported since the handshake. -/
def ArrivesFresh (w : World) (c : Impl) : Prop :=
  c.connectionState ≠ .connected → ∀ begun arrived,
    (setConnectionState w .connecting).run c = .ok () begun →
      (attempt w).run begun = .ok true arrived →
        arrived.sessionManager.session.connected = true ∧ arrived.disconnectNotified = false

theorem fresh_announced (down : Down c) (connected : c.sessionManager.session.connected = true)
    (unnotified : c.disconnectNotified = false) : Fresh (announced .connected c) := by
  unfold announced
  split
  · exact ⟨⟨down.heard, fun _ => unnotified⟩, fun _ => connected⟩
  · exact ⟨⟨down.heard, fun _ => unnotified⟩, fun _ => connected⟩

theorem down_settle (heard : c.suppressDisconnectNotifications = false) :
    Down (finalState (settle w false) c) := by
  unfold settle
  rw [finalState_bind_pure]
  exact down_setConnectionState (by decide) heard

theorem fresh_settled {connected : Bool} (down : Down c)
    (current : connected = true →
      c.sessionManager.session.connected = true ∧ c.disconnectNotified = false) :
    Fresh (announced (if connected then .connected else .failed) c) := by
  cases connected with
  | true => exact fresh_announced down (current rfl).1 (current rfl).2
  | false =>
      have failed : Down (announced .failed c) :=
        ⟨heard_announced down.heard, by rw [announced_connectionState]; decide⟩
      exact failed.fresh

theorem fresh_attempted (down : Down c)
    (current : ∀ arrived, (attempt w).run c = .ok true arrived →
      arrived.sessionManager.session.connected = true ∧ arrived.disconnectNotified = false) :
    Fresh (finalState (catchException (attempt w >>= settle w) (fun _ => settle w false)) c) := by
  have attempted := down_attempt (w := w) down
  cases made : (attempt w).run c with
  | ok won arrived =>
      have follows : (attempt w >>= settle w).run c = (settle w won).run arrived := by
        rw [EStateM.run_bind, made]
      rw [finalState_of_ok made] at attempted
      by_cases throws : StateCallbackThrows w (if won then .connected else .failed) arrived
      · obtain ⟨what, thrown⟩ := settle_throws throws
        rw [finalState_congr (catchException_of_exception (follows.trans thrown))]
        exact (down_settle (heard_announced attempted.heard)).fresh
      · rw [finalState_of_ok (catchException_of_ok (follows.trans (settle_returns throws)))]
        refine fresh_settled attempted fun succeeds => current arrived ?_
        rw [made, succeeds]
  | error raised d =>
      have follows : (attempt w >>= settle w).run c = .error raised d := by
        rw [EStateM.run_bind, made]
      rw [finalState_of_error made] at attempted
      cases raised with
      | exception what =>
          rw [finalState_congr (catchException_of_exception follows)]
          exact (down_settle attempted.heard).fresh
      | terminate =>
          rw [finalState_of_error (catchException_of_terminate follows)]
          exact attempted.fresh

theorem fresh_connect (fresh : Fresh c) (arrives : ArrivesFresh w c) :
    Fresh (finalState (connect w) c) := by
  by_cases connected : c.connectionState = .connected
  · rwa [finalState_of_ok (connect_of_connected connected)]
  · have begins : Down (finalState (setConnectionState w .connecting) c) :=
      down_setConnectionState (by decide) fresh.heard
    rw [finalState_congr (connect_of_unconnected connected)]
    cases stored : (setConnectionState w .connecting).run c with
    | error raised begun =>
        rw [finalState_of_error stored] at begins
        rw [finalState_bind_of_error stored]
        exact begins.fresh
    | ok _ begun =>
        rw [finalState_of_ok stored] at begins
        rw [finalState_bind_of_ok stored]
        exact fresh_attempted begins fun arrived => arrives connected begun arrived stored

end Connects

section Disconnects

theorem total_closeSession : Total (closeSession w) := fun c => by
  have disconnects : Total (Session.Manager.disconnect c.config w.session) := total_disconnect
  exact total_callSession disconnects c

theorem down_disconnect (caller : Caller) (c : Impl) : Down (finalState (disconnect w caller) c) := by
  obtain ⟨_, closed, closes⟩ := total_closeSession (w := w)
    { c with suppressDisconnectNotifications := true }
  have same : closed.connectionState = c.connectionState :=
    (silenced_closeSession.of_ok closes rfl).2.2
  have body : finalState (disconnect w caller) c = finalState (suppressingNotifications (do
      closeSession w
      if c.connectionState = .connected then
        stopPolling caller
        setConnectionState w .disconnected
        releaseAeron
        modify (fun c =>
          { c with
            stats.currentSessionId := -1
            stats.currentLeaderId := -1
            stats.isConnected := false }))) c := rfl
  rw [body, finalState_suppressingNotifications, finalState_bind_of_ok closes]
  refine ⟨rfl, ?_⟩
  by_cases connected : c.connectionState = .connected
  · have rest : Within Disturbs (do
        releaseAeron
        modify (fun c =>
          { c with
            stats.currentSessionId := -1
            stats.currentLeaderId := -1
            stats.isConnected := false })) :=
      within_bind (disturbs_modify fun _ => rfl) fun _ => disturbs_modify fun _ => rfl
    have left : (finalState (setConnectionState w .disconnected)
        (finalState (stopPolling caller) closed)).connectionState ≠ .connected := by
      rw [finalState_setConnectionState, announced_connectionState]
      decide
    rw [if_pos connected]
    exact (after_bind (fun _ => rest) _).toSteady.unconnected left
  · rw [if_neg connected]
    change closed.connectionState ≠ .connected
    rwa [same]

/-- What an attempt of the auto-reconnect thread connects from. -/
def cleanedUp (w : World) (c : Impl) : Impl :=
  finalState (do
    suppressingNotifications (catchException (closeSession w) (fun _ => return ()))
    releaseAeron) c

theorem fresh_reconnect
    (arrives : ∀ mid, (disconnect w .user).run c = .ok () mid → ArrivesFresh w mid) :
    Fresh (finalState (reconnect w) c) := by
  have down := down_disconnect (w := w) .user c
  unfold reconnect
  cases run : (disconnect w .user).run c with
  | ok _ mid =>
      rw [finalState_of_ok run] at down
      rw [finalState_bind_of_ok run]
      exact fresh_connect down.fresh (arrives mid run)
  | error raised mid =>
      rw [finalState_of_error run] at down
      rw [finalState_bind_of_error run]
      exact down.fresh

theorem down_cleanedUp (unconnected : c.connectionState ≠ .connected) : Down (cleanedUp w c) := by
  have silenced : Within Silenced (catchException (closeSession w) (fun _ => return ())) :=
    within_catchException silenced_closeSession fun _ => within_pure _
  have closed : Down (finalState (suppressingNotifications
      (catchException (closeSession w) (fun _ => return ()))) c) := by
    refine ⟨?_, ?_⟩
    · rw [finalState_suppressingNotifications]
    · rw [(untouched_suppressingNotifications silenced c).2]
      exact unconnected
  have released : Within Listens releaseAeron := listens_modify fun _ => ⟨rfl, rfl, rfl, rfl, id⟩
  exact (after_bind (fun _ => released) c).down closed

theorem keepsFresh_autoReconnectBegin : Within KeepsFresh autoReconnectBegin := by
  unfold autoReconnectBegin
  refine within_bind within_get fun c => ?_
  split
  · refine within_bind (keepsFresh_modify fun _ => ⟨rfl, rfl, rfl, rfl, id⟩) fun _ => ?_
    exact keepsFresh_stopPolling _
  · exact within_pure _

theorem keepsFresh_autoReconnectGiveUp (reason : StdString) :
    Within KeepsFresh (autoReconnectGiveUp w reason) := by
  unfold autoReconnectGiveUp
  refine within_bind (keepsFresh_modify fun _ => ⟨rfl, rfl, rfl, rfl, id⟩) fun _ => ?_
  exact within_bind within_get fun c =>
    within_ite (has_callErrorCallback basis_keepsFresh.toCore _) (within_pure _)

theorem fresh_reconnectOnce (unconnected : c.connectionState ≠ .connected)
    (arrives : ArrivesFresh w (cleanedUp w c)) (made : Nat) (reason : StdString) :
    Fresh (finalState (reconnectOnce w made reason) c) := by
  have down := down_cleanedUp (w := w) unconnected
  have rest : ∀ won : Bool, Within KeepsFresh (if won then
      modify (fun c =>
        { c with
          disconnectNotified := false
          reconnectInProgress := false
          autoReconnectThread := none })
    else do
      stopPolling .autoReconnect
      modify (fun c => { c with autoReconnectThread := some (made + 1, reason) }) : ClientM Unit) := by
    intro won
    refine within_ite (keepsFresh_modify fun _ => ⟨rfl, rfl, rfl, rfl, nofun⟩) ?_
    exact within_bind (keepsFresh_stopPolling _) fun _ =>
      keepsFresh_modify fun _ => ⟨rfl, rfl, rfl, rfl, id⟩
  have split : finalState (reconnectOnce w made reason) c = finalState ((do
      suppressingNotifications (catchException (closeSession w) (fun _ => return ()))
      releaseAeron) >>= fun _ => connect w >>= fun won => if won then
        modify (fun c =>
          { c with
            disconnectNotified := false
            reconnectInProgress := false
            autoReconnectThread := none })
      else do
        stopPolling .autoReconnect
        modify (fun c => { c with autoReconnectThread := some (made + 1, reason) })) c := by
    unfold reconnectOnce
    simp only [bind_assoc]
  rw [split]
  unfold cleanedUp at down arrives
  cases run : (do
      suppressingNotifications (catchException (closeSession w) (fun _ => return ()))
      releaseAeron : ClientM Unit).run c with
  | ok _ mid =>
      rw [finalState_of_ok run] at down arrives
      rw [finalState_bind_of_ok run]
      exact after_bind rest mid (fresh_connect down.fresh arrives)
  | error raised mid =>
      rw [finalState_of_error run] at down
      rw [finalState_bind_of_error run]
      exact down.fresh

theorem fresh_autoReconnectAttempt (fresh : Fresh c)
    (arrives : Attempts c → c.connectionState ≠ .connected ∧ ArrivesFresh w (cleanedUp w c)) :
    Fresh (finalState (autoReconnectAttempt w) c) := by
  unfold autoReconnectAttempt
  rw [finalState_bind_of_ok (EStateM.run_get c)]
  cases thread : c.autoReconnectThread with
  | none => exact fresh
  | some running =>
      obtain ⟨made, reason⟩ := running
      dsimp only
      split
      · exact keepsFresh_autoReconnectGiveUp reason c fresh
      · rename_i goes_on
        rw [Bool.or_eq_true, not_or] at goes_on
        have attempts : Attempts c :=
          ⟨by simpa using goes_on.1, made, reason, thread, by simpa using goes_on.2⟩
        exact fresh_reconnectOnce (arrives attempts).1 (arrives attempts).2 made reason

end Disconnects

section Runs

/-- Whenever a step makes a connect call that arrives, it arrives fresh, and no attempt to
reconnect is made while the client is connected. -/
def Orderly (c : Impl) (step : Operations.Step) : Prop :=
  match step.operation with
  | .act .connect => ArrivesFresh step.world c
  | .act .reconnect =>
      ∀ mid, (disconnect step.world .user).run c = .ok () mid → ArrivesFresh step.world mid
  | .act .autoReconnectAttempt =>
      Attempts c → c.connectionState ≠ .connected ∧ ArrivesFresh step.world (cleanedUp step.world c)
  | _ => True

theorem fresh_take {step : Operations.Step} (fresh : Fresh c) (orderly : Orderly c step) :
    Fresh (Operations.take step c) := by
  obtain ⟨w, operation⟩ := step
  have basis : Basis w (Within KeepsFresh) := basis_keepsFresh
  have drop {α : Type} {x : ClientM α} (kept : Within KeepsFresh x) : Within KeepsFresh (do let _ ← x) :=
    has_drop closed_within kept
  have aside {f : Impl → Impl} (spares : ∀ c, Aside c (f c)) :
      Fresh (finalState (modify f : ClientM Unit) c) := keepsFresh_modify spares c fresh
  unfold Operations.take
  cases operation with
  | setMessageCallback present => exact aside fun _ => ⟨rfl, rfl, rfl, rfl, id⟩
  | setConnectionStateCallback present => exact aside fun _ => ⟨rfl, rfl, rfl, rfl, id⟩
  | setErrorCallback present => exact aside fun _ => ⟨rfl, rfl, rfl, rfl, id⟩
  | setInstanceIdentifier instanceId => exact aside fun _ => ⟨rfl, rfl, rfl, rfl, id⟩
  | publishOrder order => exact drop (has_publishOrder basis order) c fresh
  | publishOrderToTopic order topic => exact drop (has_publishOrderToTopic basis order topic) c fresh
  | publishMessage messageType payload headers =>
      exact drop (has_publishMessage basis messageType payload headers) c fresh
  | publishMessageToTopic messageType payload headers topic =>
      exact drop (has_publishMessageToTopic basis messageType payload headers topic) c fresh
  | sendCommitRequest topic =>
      refine drop (has_sendCommitRequest basis fun config _ _ _ frame _ => ?_) c fresh
      exact keepsFresh_callSession (total_sendRawMessage frame)
        (within_sendRawMessage admits_follows.everywhere.event admits_follows.sent
          fun _ _ => follows_of_same rfl rfl)
  | sendCommitOffset offset => exact drop (has_sendCommitOffset basis.toCore offset) c fresh
  | resumeFromLastCommit topic messageIdentifier =>
      exact drop (has_resumeFromLastCommit basis topic messageIdentifier) c fresh
  | keepalive =>
      refine drop (keepsFresh_callSession total_sendKeepalive ?_) c fresh
      exact within_sendKeepalive admits_follows.everywhere.event (fun _ => follows_of_same rfl rfl)
        (fun _ => follows_of_same rfl rfl) fun _ _ => follows_of_same rfl rfl
  | act act =>
      cases act with
      | connect =>
          change Fresh (finalState (connect w >>= fun _ => pure ()) c)
          rw [finalState_bind_pure]
          exact fresh_connect fresh orderly
      | disconnect caller => exact (down_disconnect caller c).fresh
      | reconnect =>
          change Fresh (finalState (reconnect w >>= fun _ => pure ()) c)
          rw [finalState_bind_pure]
          exact fresh_reconnect orderly
      | startPolling => exact keepsFresh_startPolling c fresh
      | stopPolling caller => exact keepsFresh_stopPolling caller c fresh
      | setAutoReconnect enabled => exact aside fun _ => ⟨rfl, rfl, rfl, rfl, id⟩
      | autoReconnectBegin => exact keepsFresh_autoReconnectBegin c fresh
      | autoReconnectAttempt => exact fresh_autoReconnectAttempt fresh orderly
      | event event => exact has_doMeanwhile basis event c fresh
      | subscribe topic messageIdentifier resumeStrategy instanceIdentifier =>
          exact drop (has_sendSubscriptionRequest basis.toCore _ _ _ _) c fresh
      | unsubscribe topic messageIdentifier =>
          exact drop (has_sendUnsubscriptionRequest basis.toCore _ _) c fresh
      | commit offset => exact has_commitMessage basis.toCore offset c fresh

/-- `CONNECTED` is not stale: the session manager is connected, too. -/
def Current (c : Impl) : Prop :=
  c.connectionState = .connected → c.sessionManager.session.connected = true

section Sample

/-- The cluster closes the session while the connect call resumes its subscriptions. -/
def closing : World :=
  { accepting with meanwhile := fun n => if n = 11 then
      [.session (.session
        { success := true
          templateId := Sbe.Encoder.SESSION_EVENT_TEMPLATE_ID
          schemaId := Sbe.Encoder.CLUSTER_SCHEMA_ID
          eventCode := Session.Manager.SESSION_EVENT_CLOSED })]
      else [] }

end Sample

end Runs

end AeronClusterClient.Client.StaleConnection
