/- module: AeronClusterClient/Client/SessionEffects
   generality: every relation between sessions that the operations of a session manager respect
   digest: What the calls into a client may do to its session. -/

import AeronClusterClient.Client.Acts
import AeronClusterClient.Client.Programs
import AeronClusterClient.Session.Updates

/-!
A client writes to its session through the session manager only. A relation
that the operations of the session manager respect therefore relates the
sessions before and after any call into a client.
-/

set_option autoImplicit false
set_option relaxedAutoImplicit false

namespace AeronClusterClient.Client.SessionEffects

open Lib.Action Client.State Client.Frames Client.Connection Client.Programs Client.Acts
open Commit.Manager (buildCommitOffsetMessage)
open Sbe.Parser (ParseResult)
open Session.Manager (SessionState SessionM Notice publishMessage sendCombinedMessage sendKeepalive)
open Session.Updates (On within_update)
open Text (StdString)

/-- Whatever a client asks of its session manager relates the sessions before and after it. -/
structure Respects (Q : SessionState → SessionState → Prop) : Prop where
  event : ∀ s event, Q s (s.apply event)
  taken : ∀ s, Q s { s with notices := [] }
  connect : ∀ config world, Within (On Q) (Session.Connect.connect config world)
  disconnect : ∀ config world, Within (On Q) (Session.Manager.disconnect config world)
  publishMessage : ∀ config world topic messageType messageId payload headers,
    Within (On Q) (publishMessage config world topic messageType messageId payload headers)
  sendCommitOffset : ∀ config world json clientId offset timestamp stamp frame,
    buildCommitOffsetMessage json clientId offset timestamp stamp = .ok frame →
      Within (On Q) (sendCombinedMessage config world frame)
  sendKeepalive : ∀ world, Within (On Q) (sendKeepalive world)

def Holds (Q : SessionState → SessionState → Prop) (c after : Impl) : Prop :=
  Q c.sessionManager.session after.sessionManager.session

variable {Q : SessionState → SessionState → Prop} {w : World} {α : Type}

theorem holds_runSession {x : SessionM α} (within : Within (On Q) x) :
    Within (Holds Q) (runSession x) := by
  intro c
  cases run : x.run c.sessionManager with
  | ok a m =>
      rw [finalState_of_ok (runSession_of_ok run)]
      exact within.of_ok run
  | error what m =>
      rw [finalState_of_error (runSession_of_error run)]
      exact within.of_error run

variable [IsPreorder SessionState Q]

instance : IsPreorder Impl (Holds Q) where
  refl c := refl_of Q c.sessionManager.session
  trans _ _ _ first rest := trans_of Q first rest

section Aside

theorem holds_modify {f : Impl → Impl}
    (same : ∀ c, (f c).sessionManager.session = c.sessionManager.session) :
    Within (Holds Q) (modify f : ClientM Unit) := by
  refine within_modify fun c => ?_
  unfold Holds
  rw [same]
  exact refl_of Q _

theorem noting_holds : Noting (Within (Holds Q)) :=
  .of_notes closed_within fun notes => holds_modify fun c => (notes c).session

theorem holds_startPolling : Within (Holds Q) startPolling := by
  unfold startPolling
  refine within_bind within_get fun c => within_ite (within_pure _) ?_
  refine within_bind within_get fun c => within_ite ?_ (holds_modify fun _ => rfl)
  exact within_bind (holds_modify fun _ => rfl) fun _ => within_throw _

theorem holds_stopPolling (caller : Caller) : Within (Holds Q) (stopPolling caller) :=
  holds_modify fun _ => rfl

theorem holds_suppressingNotifications {body : ClientM Unit} (held : Within (Holds Q) body) :
    Within (Holds Q) (suppressingNotifications body) := by
  unfold suppressingNotifications
  refine within_bind (holds_modify fun _ => rfl) fun _ => ?_
  refine within_bind (within_tryCatch held fun raised => ?_) fun _ => holds_modify fun _ => rfl
  exact within_bind (holds_modify fun _ => rfl) fun _ => within_throw _

end Aside

section Calls

theorem holds_takeNotices (respects : Respects Q) : Within (Holds Q) takeNotices := by
  unfold takeNotices
  refine within_bind within_get fun c => within_bind ?_ fun _ => within_pure _
  exact within_modify fun c => respects.taken c.sessionManager.session

theorem holds_callSession_rest (respects : Respects Q) (x : SessionM α) (c : Impl) :
    Holds Q { c with sessionManager := finalState x c.sessionManager }
      (finalState (callSession w x) c) := by
  have rest (a : α) : Within (Holds Q) (do
      (← takeNotices).forM (fun notice => catchException (onNotice w notice) (fun _ => return ()))
      return a) := by
    refine within_bind (holds_takeNotices respects) fun notices => ?_
    refine within_bind (within_forM fun notice _ => ?_) fun _ => within_pure _
    exact within_catchException (noted_onNotice noting_holds notice) fun _ => within_pure _
  unfold callSession
  cases run : x.run c.sessionManager with
  | ok a m =>
      rw [finalState_of_ok run, finalState_bind_of_ok (runSession_of_ok run)]
      exact rest a _
  | error what m =>
      rw [finalState_of_error run, finalState_bind_of_error (runSession_of_error run)]
      exact refl_of (Holds Q) _

theorem holds_callSession (respects : Respects Q) {x : SessionM α} (within : Within (On Q) x) :
    Within (Holds Q) (callSession w x) := by
  intro c
  have first : Holds Q c { c with sessionManager := finalState x c.sessionManager } :=
    within c.sessionManager
  exact trans_of (Holds Q) first (holds_callSession_rest respects x c)

variable (respects : Respects Q)
include respects

theorem holds_handleSessionEvent (result : ParseResult) :
    Within (Holds Q) (handleSessionEvent w result) := by
  have event := within_update fun s => respects.event s (.session result)
  unfold handleSessionEvent
  refine within_bind within_get fun c => within_bind (holds_runSession event) fun a => ?_
  refine within_bind (holds_takeNotices respects) fun notices => ?_
  exact within_forM fun notice _ => noted_onEventNotice noting_holds notice

theorem basis_holds : Basis w (Within (Holds Q)) where
  toClosed := closed_within
  aside := fun aside => holds_modify fun c => (aside c).session
  notifyConnectionLoss := noted_notifyConnectionLoss noting_holds
  handleSessionEvent := holds_handleSessionEvent respects
  handleAeronError := noted_handleAeronError noting_holds fun _ =>
    holds_callSession respects (respects.disconnect _ _)
  event := fun event => holds_callSession respects (within_update fun s => respects.event s event)
  connect := fun _ => holds_callSession respects (respects.connect _ _)
  publishMessage := fun _ _ _ _ _ _ => holds_callSession respects (respects.publishMessage _ _ _ _ _ _ _)
  sendCommitOffset := fun _ _ _ _ _ _ _ built =>
    holds_callSession respects (respects.sendCommitOffset _ _ _ _ _ _ _ _ built)

theorem holds_connect : Within (Holds Q) (connect w) := by
  have basis : Basis w (Within (Holds Q)) := basis_holds respects
  have failed : Within (Holds Q) (do setConnectionState w .failed; return false) :=
    within_bind (noted_setConnectionState noting_holds _) fun _ => within_pure _
  unfold connect
  refine within_bind within_get fun c => within_ite (within_pure _) ?_
  refine within_bind (noted_setConnectionState noting_holds _) fun _ => within_catchException ?_ fun _ => failed
  unfold connectSteps
  refine within_bind (holds_modify fun _ => rfl) fun _ => ?_
  refine within_bind (has_initializeAeron basis.toCore) fun ready => within_ite failed ?_
  refine within_bind holds_startPolling fun _ => within_bind (has_openSession basis.toCore basis.pause) fun opened => ?_
  cases opened with
  | none => exact failed
  | some result =>
      refine within_bind (has_enterSession basis.toCore basis.pause result) fun _ => ?_
      exact within_bind (noted_setConnectionState noting_holds _) fun _ => within_pure _

theorem holds_closeSession : Within (Holds Q) (closeSession w) := by
  unfold closeSession
  exact within_bind within_get fun c => holds_callSession respects (respects.disconnect _ _)

theorem holds_disconnect (caller : Caller) : Within (Holds Q) (disconnect w caller) := by
  unfold disconnect
  refine within_bind within_get fun c => holds_suppressingNotifications ?_
  refine within_bind (holds_closeSession respects) fun _ => within_ite ?_ (within_pure _)
  refine within_bind (holds_stopPolling _) fun _ => ?_
  refine within_bind (noted_setConnectionState noting_holds _) fun _ => ?_
  exact within_bind (holds_modify fun _ => rfl) fun _ => holds_modify fun _ => rfl

theorem holds_autoReconnectAttempt : Within (Holds Q) (autoReconnectAttempt w) := by
  unfold autoReconnectAttempt
  refine within_bind within_get fun c => ?_
  split
  · exact within_pure _
  · refine within_ite ?_ ?_
    · unfold autoReconnectGiveUp
      refine within_bind (holds_modify fun _ => rfl) fun _ => within_bind within_get fun c => ?_
      exact within_ite (noted_callErrorCallback noting_holds _) (within_pure _)
    · unfold reconnectOnce
      refine within_bind (holds_suppressingNotifications ?_) fun _ => ?_
      · exact within_catchException (holds_closeSession respects) fun _ => within_pure _
      · refine within_bind (holds_modify fun _ => rfl) fun _ => ?_
        refine within_bind (holds_connect respects) fun won => ?_
        refine within_ite (holds_modify fun _ => rfl) ?_
        exact within_bind (holds_stopPolling _) fun _ => holds_modify fun _ => rfl

/-- Every call into a client relates the sessions before and after it. -/
theorem holds_perform (act : Act) : Within (Holds Q) (perform w act) := by
  cases act with
  | connect => exact within_bind (holds_connect respects) fun _ => within_pure _
  | disconnect caller => exact holds_disconnect respects caller
  | reconnect =>
      refine within_bind ?_ fun _ => within_pure _
      exact within_bind (holds_disconnect respects .user) fun _ => holds_connect respects
  | startPolling => exact holds_startPolling
  | stopPolling caller => exact holds_stopPolling caller
  | setAutoReconnect enabled => exact holds_modify fun _ => rfl
  | autoReconnectBegin =>
      change Within (Holds Q) autoReconnectBegin
      unfold autoReconnectBegin
      refine within_bind within_get fun c => ?_
      split
      · exact within_bind (holds_modify fun _ => rfl) fun _ => holds_stopPolling _
      · exact within_pure _
  | autoReconnectAttempt => exact holds_autoReconnectAttempt respects
  | event event => exact has_doMeanwhile (basis_holds respects) event
  | subscribe topic messageIdentifier resumeStrategy instanceIdentifier =>
      exact has_drop closed_within (has_sendSubscriptionRequest (basis_holds respects).toCore _ _ _ _)
  | unsubscribe topic messageIdentifier =>
      exact has_drop closed_within (has_sendUnsubscriptionRequest (basis_holds respects).toCore _ _)
  | commit offset => exact has_commitMessage (basis_holds respects).toCore offset

end Calls

end AeronClusterClient.Client.SessionEffects
