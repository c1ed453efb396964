/- module: AeronClusterClient/Client/RejectedLogin
   source: src/session_manager.cpp (handle_session_event, handle_session_error),
   src/cluster_client.cpp (on_session_event, on_session_connection_state_changed, notify_connection_loss)
   digest: Exactly when a rejected login is reported as such and not retried. -/

import AeronClusterClient.Client.Operations

/-!
A rejection makes two callbacks: the session is no longer connected, and the
event itself. Each reports a loss, and only the first report of a loss counts.
The first one gives another reason and permits a reconnect.
-/

set_option autoImplicit false
set_option relaxedAutoImplicit false

namespace AeronClusterClient.Client.RejectedLogin

open Lib.Action Lib.Runs Client.State Client.Frames
open Config (ClusterClientConfig)
open Sbe.Parser (ParseResult)
open Session.Manager (SessionState Notice SESSION_EVENT_OK SESSION_EVENT_REDIRECT SESSION_EVENT_ERROR
  SESSION_EVENT_AUTHENTICATION_REJECTED)
open Text (StdString ascii)

variable {w : World} {c : Impl} {result : ParseResult}

section Losses

/-- No error is reported between two states, and nothing that a report depends on changes. -/
structure Told (c after : Impl) : Prop where
  called : ∃ calls, after.called = c.called ++ calls ∧ ∀ text, .error text ∉ calls
  scheduleCalls : after.scheduleCalls = c.scheduleCalls
  errorCallback : after.errorCallback = c.errorCallback
  autoReconnectEnabled : after.autoReconnectEnabled = c.autoReconnectEnabled
  disconnectNotified : after.disconnectNotified = c.disconnectNotified

theorem told_announced (newState : ConnectionState) (c : Impl) : Told c (announced newState c) := by
  unfold announced
  split
  · exact ⟨⟨[.connectionState c.connectionState newState], rfl, by simp⟩, rfl, rfl, rfl, rfl⟩
  · exact ⟨⟨[], (List.append_nil _).symm, nofun⟩, rfl, rfl, rfl, rfl⟩

def disconnectedReason : StdString := ascii "Cluster session disconnected"

/-- Nothing is scheduled, and no other text than the given one is reported. -/
structure ReportsOnly (text : StdString) (c after : Impl) : Prop where
  scheduleCalls : after.scheduleCalls = c.scheduleCalls
  reported : ∀ other, .error other ∈ after.called.drop c.called.length → other = text

theorem reportsOnly_of_told {text : StdString} {after : Impl} (told : Told c after) :
    ReportsOnly text c after := by
  obtain ⟨calls, called, none⟩ := told.called
  refine ⟨told.scheduleCalls, fun other among => ?_⟩
  rw [called, List.drop_left] at among
  exact absurd among (none other)

/-- What follows the state callback in a report. -/
def announce (w : World) (reason : StdString) : ClientM Unit := do
  callErrorCallback w reason
  if (← get).autoReconnectEnabled then scheduleAutoReconnect reason

theorem scheduleAutoReconnect_records (reason : StdString) (c : Impl) :
    (finalState (scheduleAutoReconnect reason) c).scheduleCalls = c.scheduleCalls ++ [reason] ∧
      (finalState (scheduleAutoReconnect reason) c).called = c.called := by
  have run : (scheduleAutoReconnect reason).run c =
      (if !c.autoReconnectEnabled then pure () else if c.reconnectInProgress then pure () else
        modify (fun c => { c with reconnectInProgress := true, autoReconnectScheduled := some reason }) :
          ClientM Unit).run { c with scheduleCalls := c.scheduleCalls ++ [reason] } := rfl
  unfold finalState
  rw [run]
  cases c.autoReconnectEnabled with
  | false => exact ⟨rfl, rfl⟩
  | true =>
      cases c.reconnectInProgress with
      | true => exact ⟨rfl, rfl⟩
      | false => exact ⟨rfl, rfl⟩

theorem announce_called {reason : StdString} (heard : c.errorCallback = true) :
    (finalState (announce w reason) c).called = c.called ++ [.error reason] := by
  have called : (callErrorCallback w reason).run c = (callUser w (.error reason)).run c := by
    rw [callErrorCallback_run, if_pos heard]
  rw [callUser_run] at called
  unfold announce
  cases answered : w.callback c.sessionManager.looks with
  | error what =>
      rw [answered] at called
      rw [finalState_bind_of_error called]
      rfl
  | ok _ =>
      rw [answered] at called
      have read : (get : ClientM Impl).run (told (.error reason) c) =
          .ok (told (.error reason) c) (told (.error reason) c) := rfl
      rw [finalState_bind_of_ok called, finalState_bind_of_ok read]
      split
      · rw [(scheduleAutoReconnect_records reason _).2]
        rfl
      · rfl

theorem announce_unheard {reason : StdString} (unheard : c.errorCallback = false) :
    finalState (announce w reason) c =
      if c.autoReconnectEnabled then finalState (scheduleAutoReconnect reason) c else c := by
  have silent : (callErrorCallback w reason).run c = .ok () c := by
    rw [callErrorCallback_run, unheard]
    rfl
  have read : (get : ClientM Impl).run c = .ok c c := rfl
  unfold announce
  rw [finalState_bind_of_ok silent, finalState_bind_of_ok read]
  split
  · rfl
  · rfl

/-- After an announcement under another reason than the given text, only this text has been
reported and nothing scheduled exactly if there is no error callback and reconnecting is not enabled. -/
theorem announce_reportsOnly {reason text : StdString} (other : reason ≠ text) :
    ReportsOnly text c (finalState (announce w reason) c) ↔
      c.errorCallback = false ∧ c.autoReconnectEnabled = false := by
  cases heard : c.errorCallback with
  | true =>
      constructor
      · intro only
        have reported := only.reported reason (by
          rw [announce_called heard, List.drop_left]
          exact List.mem_singleton_self _)
        exact absurd reported other
      · rintro ⟨unheard, -⟩
        cases unheard
  | false =>
      rw [announce_unheard heard]
      cases enabled : c.autoReconnectEnabled with
      | true =>
          rw [if_pos rfl]
          constructor
          · intro only
            have scheduled := only.scheduleCalls
            rw [(scheduleAutoReconnect_records reason c).1] at scheduled
            exact absurd scheduled (by simp)
          · rintro ⟨-, disabled⟩
            cases disabled
      | false =>
          rw [if_neg (by decide)]
          exact ⟨fun _ => ⟨rfl, rfl⟩, fun _ => ⟨rfl, by simp⟩⟩

theorem reportsOnly_of_told_iff {text : StdString} {d after : Impl} (told : Told c d)
    (extends' : d.called <+: after.called) :
    ReportsOnly text c after ↔ ReportsOnly text d after := by
  obtain ⟨calls, called, none⟩ := told.called
  obtain ⟨more, whole⟩ := extends'
  have behind : after.called.drop d.called.length = more := by
    rw [← whole, List.drop_left]
  have both : after.called.drop c.called.length = calls ++ more := by
    rw [← whole, called, List.append_assoc, List.drop_left]
  constructor
  · rintro ⟨scheduled, reported⟩
    refine ⟨scheduled.trans told.scheduleCalls.symm, fun other among => ?_⟩
    rw [behind] at among
    apply reported other
    rw [both]
    exact List.mem_append_right calls among
  · rintro ⟨scheduled, reported⟩
    refine ⟨scheduled.trans told.scheduleCalls, fun other among => ?_⟩
    rw [both] at among
    rcases List.mem_append.mp among with early | late
    · exact absurd early (none other)
    · apply reported other
      rw [behind]
      exact late

theorem announce_extends (reason : StdString) (c : Impl) :
    c.called <+: (finalState (announce w reason) c).called := by
  cases heard : c.errorCallback with
  | true =>
      rw [announce_called heard]
      exact List.prefix_append _ _
  | false =>
      rw [announce_unheard heard]
      split
      · rw [(scheduleAutoReconnect_records reason c).2]
      · exact List.prefix_rfl

theorem notifyConnectionLoss_throws (reported : ¬ Unreported c) (throws : StateCallbackThrows w .disconnected c)
    (reason : StdString) (allowAutoReconnect : Bool) :
    ∃ raised after, (notifyConnectionLoss w reason allowAutoReconnect).run c = .error raised after ∧
      Told (lost c) after := by
  have lostThrows : StateCallbackThrows w .disconnected (lost c) := throws
  obtain ⟨what, run⟩ := setConnectionState_throws lostThrows
  refine ⟨.exception what, _, ?_, told_announced .disconnected (lost c)⟩
  rw [notifyConnectionLoss_reported reported, EStateM.run_bind, run]

theorem notifyConnectionLoss_announces (reported : ¬ Unreported c)
    (returns : ¬ StateCallbackThrows w .disconnected c) (reason : StdString) :
    ∃ d, (notifyConnectionLoss w reason true).run c = (announce w reason).run d ∧
      Told (lost c) d := by
  have lostReturns : ¬ StateCallbackThrows w .disconnected (lost c) := returns
  refine ⟨_, ?_, told_announced .disconnected (lost c)⟩
  rw [notifyConnectionLoss_reported reported, EStateM.run_bind, setConnectionState_returns lostReturns]
  rfl

theorem notifyConnectionLoss_reportsOnly {reason text : StdString} (other : reason ≠ text) :
    ReportsOnly text c (finalState (notifyConnectionLoss w reason true) c) ↔
      Unreported c ∨ StateCallbackThrows w .disconnected c ∨
        (c.errorCallback = false ∧ c.autoReconnectEnabled = false) := by
  by_cases unreported : Unreported c
  · rw [finalState_of_ok (notifyConnectionLoss_unreported unreported reason true)]
    exact ⟨fun _ => Or.inl unreported, fun _ => ⟨rfl, by simp⟩⟩
  · by_cases throws : StateCallbackThrows w .disconnected c
    · obtain ⟨raised, after, run, told⟩ :=
        notifyConnectionLoss_throws unreported throws reason true
      have only : ReportsOnly text (lost c) after := reportsOnly_of_told told
      rw [finalState_of_error run]
      exact ⟨fun _ => Or.inr (Or.inl throws), fun _ => ⟨only.scheduleCalls, only.reported⟩⟩
    · obtain ⟨d, run, told⟩ := notifyConnectionLoss_announces unreported throws reason
      have same : finalState (notifyConnectionLoss w reason true) c =
          finalState (announce w reason) d := by
        unfold finalState
        rw [run]
      have between : ReportsOnly text (lost c) (finalState (announce w reason) d) ↔
          ReportsOnly text d (finalState (announce w reason) d) :=
        reportsOnly_of_told_iff told (announce_extends reason d)
      have here : ReportsOnly text c (finalState (announce w reason) d) ↔
          ReportsOnly text (lost c) (finalState (announce w reason) d) :=
        ⟨fun only => ⟨only.scheduleCalls, only.reported⟩,
          fun only => ⟨only.scheduleCalls, only.reported⟩⟩
      rw [same, here, between, announce_reportsOnly other, told.errorCallback,
        told.autoReconnectEnabled]
      constructor
      · exact fun silent => Or.inr (Or.inr silent)
      · rintro (silent | silent | silent)
        · exact absurd silent unreported
        · exact absurd silent throws
        · exact silent

def SameNotified (c after : Impl) : Prop := after.disconnectNotified = c.disconnectNotified

instance : IsPreorder Impl SameNotified where
  refl _ := rfl
  trans _ _ _ first rest := rest.trans first

theorem sameNotified_announce (reason : StdString) : Within SameNotified (announce w reason) := by
  have called : Within SameNotified (callUser w (.error reason)) := by
    intro c
    unfold finalState
    rw [callUser_run]
    cases w.callback c.sessionManager.looks with
    | ok _ => rfl
    | error what => rfl
  unfold announce callErrorCallback scheduleAutoReconnect
  refine within_bind ?_ fun _ => within_bind within_get fun c => within_ite ?_ (within_pure _)
  · exact within_bind within_get fun c => within_ite called (within_pure _)
  · refine within_bind (within_modify fun _ => rfl) fun _ => within_bind within_get fun c => ?_
    exact within_ite (within_pure _) (within_ite (within_pure _) (within_modify fun _ => rfl))

theorem unreported_of_returned {reason : StdString} {after : Impl}
    (run : (notifyConnectionLoss w reason true).run c = .ok () after) : Unreported after := by
  by_cases unreported : Unreported c
  · rw [notifyConnectionLoss_unreported unreported] at run
    cases run
    exact unreported
  · by_cases throws : StateCallbackThrows w .disconnected c
    · obtain ⟨raised, late, run', -⟩ :=
        notifyConnectionLoss_throws unreported throws reason true
      rw [run'] at run
      cases run
    · obtain ⟨d, run', told⟩ := notifyConnectionLoss_announces unreported throws reason
      have notified : d.disconnectNotified = true := told.disconnectNotified
      have kept : SameNotified d after := (sameNotified_announce reason).of_ok (run'.symm.trans run)
      exact Or.inr (kept.trans notified)

end Losses

section Rejections

def rejectionReason (result : ParseResult) : StdString :=
  let reason := ascii "Cluster session authentication rejected"
  if result.errorMessage.isEmpty then reason else reason ++ ascii ": " ++ result.errorMessage

theorem disconnectedReason_ne (result : ParseResult) : disconnectedReason ≠ rejectionReason result := by
  intro same
  have front := congrArg (List.take 17) same
  unfold rejectionReason at front
  dsimp only at front
  split at front
  · revert front
    decide
  · rw [List.append_assoc, List.take_append_of_le_length (by decide)] at front
    revert front
    decide

def Rejects (result : ParseResult) : Prop :=
  result.isSessionEvent = true ∧ result.eventCode = SESSION_EVENT_AUTHENTICATION_REJECTED

/-- The client when the session manager makes the first callback of a rejection and the client
begins to report the loss. -/
def dropped (result : ParseResult) (c : Impl) : Impl :=
  { c with
    sessionManager.session := { c.sessionManager.session.handleSessionEvent result with notices := [] }
    stats.isConnected := false }

theorem notices_of_rejects (rejects : Rejects result) (s : SessionState) :
    (s.handleSessionEvent result).notices =
      s.notices ++ [.connectionState false, .sessionEvent result] := by
  obtain ⟨event, code⟩ := rejects
  unfold SessionState.handleSessionEvent
  rw [event, code]
  simp [SESSION_EVENT_OK, SESSION_EVENT_REDIRECT, SESSION_EVENT_ERROR,
    SESSION_EVENT_AUTHENTICATION_REJECTED, SessionState.handleSessionError, SessionState.notify]

/-- Once the first report has returned, the event itself reports nothing. -/
theorem onSessionEvent_unreported (rejects : Rejects result) (unreported : Unreported c) :
    (onSessionEvent w result).run c = .ok () c := by
  have report : onSessionEvent w result =
      notifyConnectionLoss w (rejectionReason result) false := by
    unfold onSessionEvent rejectionReason
    rw [rejects.2]
    rfl
  rw [report, notifyConnectionLoss_unreported unreported]

theorem handleSessionEvent_rejected (rejects : Rejects result) :
    finalState (handleSessionEvent w result) c =
      finalState (notifyConnectionLoss w disconnectedReason true) (dropped result c) := by
  have both : (handleSessionEvent w result).run c = (do
      notifyConnectionLoss w disconnectedReason true
      [Notice.sessionEvent result].forM (onEventNotice w) : ClientM Unit).run (dropped result c) :=
    handleSessionEvent_run (notices_of_rejects rejects _)
  unfold finalState
  rw [both, EStateM.run_bind]
  cases reported : (notifyConnectionLoss w disconnectedReason true).run (dropped result c) with
  | error raised after => rfl
  | ok _ after =>
      have silent : (onSessionEvent w result).run after = .ok () after :=
        onSessionEvent_unreported rejects (unreported_of_returned reported)
      have caught : (catchException (onSessionEvent w result) (fun _ => return ())).run after =
          .ok () after := tryCatch_of_ok silent
      have single : ([Notice.sessionEvent result].forM (onEventNotice w) : ClientM Unit).run after =
          .ok () after := by
        change ((catchException (onSessionEvent w result) (fun _ => return ())) >>=
          fun _ => pure ()).run after = _
        rw [EStateM.run_bind, caught]
        rfl
      dsimp only
      rw [single]

end Rejections

section Runs

/-- An operation of the client, or a session event that its session manager is handed. -/
inductive Turn
  | operation (step : Operations.Step)
  | sessionEvent (w : World) (result : ParseResult)

def take : Turn → Impl → Impl
  | .operation step, c => Operations.take step c
  | .sessionEvent w result, c => finalState (handleSessionEvent w result) c

/-- A rejection schedules no reconnect, and the error callback is called with it or not at all. -/
def IsFinal (c : Impl) : Turn → Prop
  | .operation _ => True
  | .sessionEvent w result => Rejects result →
      ReportsOnly (rejectionReason result) c (take (.sessionEvent w result) c)

/-- Losses are not reported at present, or the user throws on the state change that comes first, or
nobody hears of errors and reconnecting is not enabled. -/
def IsSilent (c : Impl) : Turn → Prop
  | .operation _ => True
  | .sessionEvent w result => Rejects result →
      Unreported c ∨ StateCallbackThrows w .disconnected c ∨
        (c.errorCallback = false ∧ c.autoReconnectEnabled = false)

theorem isFinal_iff_isSilent (c : Impl) (turn : Turn) : IsFinal c turn ↔ IsSilent c turn := by
  cases turn with
  | operation step => exact Iff.rfl
  | sessionEvent w result =>
      have exactly (rejects : Rejects result) :
          ReportsOnly (rejectionReason result) c (finalState (handleSessionEvent w result) c) ↔
            Unreported c ∨ StateCallbackThrows w .disconnected c ∨
              (c.errorCallback = false ∧ c.autoReconnectEnabled = false) := by
        have started : ReportsOnly (rejectionReason result) (dropped result c)
            (finalState (notifyConnectionLoss w disconnectedReason true) (dropped result c)) ↔
              Unreported (dropped result c) ∨ StateCallbackThrows w .disconnected (dropped result c) ∨
                ((dropped result c).errorCallback = false ∧
                  (dropped result c).autoReconnectEnabled = false) :=
          notifyConnectionLoss_reportsOnly (disconnectedReason_ne result)
        rw [handleSessionEvent_rejected rejects]
        constructor
        · exact fun only => started.mp ⟨only.scheduleCalls, only.reported⟩
        · intro silent
          have only := started.mpr silent
          exact ⟨only.scheduleCalls, only.reported⟩
      exact forall_congr' exactly

/-- In every run, the rejections are final exactly if each of them finds the client silent. -/
theorem rejections_final_iff (config : ClusterClientConfig) (generated : StdString)
    (turns : List Turn) :
    Meets take IsFinal (Impl.construct config generated) turns ↔
      Meets take IsSilent (Impl.construct config generated) turns :=
  meets_congr isFinal_iff_isSilent

section Sample

def refusal : ParseResult :=
  { success := true
    templateId := Sbe.Encoder.SESSION_EVENT_TEMPLATE_ID
    schemaId := Sbe.Encoder.CLUSTER_SCHEMA_ID
    eventCode := SESSION_EVENT_AUTHENTICATION_REJECTED }

def plainWorld : World := { json := Json.plainJson, order := lexicographic }

def refusedLogin : List Turn :=
  [.operation ⟨plainWorld, .act (.setAutoReconnect true)⟩, .sessionEvent plainWorld refusal]

/-- A reconnect is scheduled on account of the refusal. -/
theorem rejection_retried :
    ¬ ∀ (config : ClusterClientConfig) (generated : StdString) (turns : List Turn),
      Meets take IsFinal (Impl.construct config generated) turns := by
  intro claim
  have meets := claim {} [] refusedLogin
  have only := meets.2.1 ⟨by decide, by decide⟩
  have scheduled := only.scheduleCalls
  revert scheduled
  decide +kernel

end Sample

end Runs

end AeronClusterClient.Client.RejectedLogin
