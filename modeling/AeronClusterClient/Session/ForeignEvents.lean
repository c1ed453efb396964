/- module: AeronClusterClient/Session/ForeignEvents
   source: src/session_manager.cpp (handle_session_event and the handlers it calls),
   include/aeron_cluster/sbe_messages.hpp (SessionConnectRequest, SessionEvent)
   digest: What session events of other sessions do to a connected session. -/

import AeronClusterClient.Lib.Runs
import AeronClusterClient.Session.Updates

/-!
A connect request carries a correlation id for matching the response, and a
session event carries two ids. No handler compares them with anything, so an
event of an earlier session acts on the current one.
-/

set_option autoImplicit false
set_option relaxedAutoImplicit false

namespace AeronClusterClient.Session.ForeignEvents

open Lib.Runs Session.Manager Session.Updates
open Sbe.Parser (ParseResult)
open Sbe.Encoder (SESSION_EVENT_TEMPLATE_ID CLUSTER_SCHEMA_ID)

variable {s : SessionState} {result : ParseResult}

/-- Neither id of the event is that of the session or that of the pending connect request. -/
def Foreign (s : SessionState) (result : ParseResult) : Prop :=
  result.correlationId ≠ s.sessionId ∧ result.correlationId ≠ s.correlationId ∧
    result.sessionId ≠ s.sessionId ∧ result.sessionId ≠ s.correlationId

/-- A closed, error or ok event that is handled while the session is connected to another one. -/
def Intrudes (s : SessionState) : Event → Prop
  | .session result => s.connected = true ∧ Foreign s result ∧ result.isSessionEvent = true ∧
      (result.eventCode = SESSION_EVENT_CLOSED ∨ result.eventCode = SESSION_EVENT_ERROR ∨
        result.eventCode = SESSION_EVENT_OK)
  | _ => False

/-- What a session is made of: its flag, its ids and its two pre-built buffers. -/
def identity (s : SessionState) :=
  (s.connected, s.sessionId, s.leadershipTermId, s.sessionHeaderBuffer, s.keepaliveBuffer)

theorem handleSessionEvent_closed (isEvent : result.isSessionEvent = true)
    (code : result.eventCode = SESSION_EVENT_CLOSED) :
    identity (s.handleSessionEvent result) =
      (false, -1, s.leadershipTermId, s.sessionHeaderBuffer, s.keepaliveBuffer) := by
  unfold SessionState.handleSessionEvent
  rw [isEvent, code]
  rfl

theorem handleSessionEvent_error (isEvent : result.isSessionEvent = true)
    (code : result.eventCode = SESSION_EVENT_ERROR) :
    identity (s.handleSessionEvent result) =
      (false, s.sessionId, s.leadershipTermId, s.sessionHeaderBuffer, s.keepaliveBuffer) := by
  unfold SessionState.handleSessionEvent
  rw [isEvent, code]
  rfl

theorem handleSessionEvent_ok (isEvent : result.isSessionEvent = true)
    (code : result.eventCode = SESSION_EVENT_OK) :
    (s.handleSessionEvent result).connected = true ∧
      (s.handleSessionEvent result).sessionId = result.correlationId ∧
      (s.handleSessionEvent result).leadershipTermId = result.leadershipTermId := by
  unfold SessionState.handleSessionEvent
  rw [isEvent, code]
  exact ⟨rfl, rfl, rfl⟩

theorem identity_of_intrudes {event : Event} (intrudes : Intrudes s event) :
    identity (s.apply event) ≠ identity s := by
  cases event with
  | session result =>
      obtain ⟨connected, foreign, isEvent, code⟩ := intrudes
      intro same
      change identity (s.handleSessionEvent result) = identity s at same
      have flag : (s.handleSessionEvent result).connected = s.connected := congrArg Prod.fst same
      have session : (s.handleSessionEvent result).sessionId = s.sessionId :=
        congrArg (fun parts => parts.2.1) same
      rcases code with closed | error | ok
      · rw [handleSessionEvent_closed isEvent closed] at same
        have lost := congrArg Prod.fst same
        rw [identity, connected] at lost
        cases lost
      · rw [handleSessionEvent_error isEvent error] at same
        have lost := congrArg Prod.fst same
        rw [identity, connected] at lost
        cases lost
      · rw [(handleSessionEvent_ok isEvent ok).2.1] at session
        exact foreign.1 session
  | offerFailed code => exact absurd intrudes id
  | publication connected => exact absurd intrudes id

/-- In a run of events, those that intrude are all ignored exactly when none intrudes. -/
theorem foreign_events_ignored_iff (events : List Event) :
    Meets (fun event s => SessionState.apply s event)
        (fun t event => Intrudes t event → identity (t.apply event) = identity t) s events ↔
      Meets (fun event s => SessionState.apply s event) (fun t event => ¬ Intrudes t event) s
        events := by
  refine meets_congr fun t event => ⟨fun ignored intrudes => ?_, fun none intrudes => ?_⟩
  · exact identity_of_intrudes intrudes (ignored intrudes)
  · exact absurd intrudes none

section Sample

def sessionEvent (eventCode correlationId sessionId leadershipTermId : Int) : ParseResult :=
  { success := true
    templateId := SESSION_EVENT_TEMPLATE_ID
    schemaId := CLUSTER_SCHEMA_ID
    eventCode := eventCode
    correlationId := correlationId
    sessionId := sessionId
    leadershipTermId := leadershipTermId }

/-- The closed event of session 4 arrives when session 5 has been established. -/
theorem late_close_ends_session :
    ¬ ∀ events : List Event, Meets (fun event s => SessionState.apply s event)
      (fun t event => Intrudes t event → identity (t.apply event) = identity t)
      { correlationId := 7 } events := by
  intro claim
  have run := claim [.session (sessionEvent SESSION_EVENT_OK 5 7 1),
    .session (sessionEvent SESSION_EVENT_CLOSED 4 3 1)]
  refine absurd (run.2.1 ⟨rfl, by unfold Foreign; decide, rfl, Or.inl rfl⟩) ?_
  decide +kernel

end Sample

end AeronClusterClient.Session.ForeignEvents
