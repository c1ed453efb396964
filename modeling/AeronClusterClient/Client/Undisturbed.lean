/- module: AeronClusterClient/Client/Undisturbed
   source: src/cluster_client.cpp (connect, on_session_event, on_session_connection_state_changed,
   notify_connection_loss), src/session_manager.cpp (handle_session_event, handle_offer_failure)
   digest: A polling loop goes on unless somebody tells of a loss. -/

import AeronClusterClient.Client.HeardLosses

/-!
`connect` does not stop the polling loop that it has started. Only the report
of a loss and a driver error do, and each of them has its cause outside the
client: an event of the session, an offer that fails, or another thread.
-/

set_option autoImplicit false
set_option relaxedAutoImplicit false

namespace AeronClusterClient.Client.Undisturbed

open Lib.Action Client.State Client.Frames Client.Connection Client.Programs Client.HeardLosses
open Sbe.Parser (ParseResult parseMessage)
open Session.Connect (total_connect total_publishMessage total_sendCombinedMessage total_update)
open Session.Manager (SessionState SessionM Event Notice SESSION_EVENT_CLOSED SESSION_EVENT_ERROR
  SESSION_EVENT_AUTHENTICATION_REJECTED classifyOfferFailure isConnectionLossFailure)
open Session.Updates (AdmitsIn Happens On handleSessionEvent_handles handleSessionEvent_of_other
  on_publishMessage on_sendCombinedMessage within_connect within_update)

variable {w : World} {c : Impl} {s : SessionState} {α : Type}

section Sessions

/-- The codes of the session events on which a client reports a loss. -/
def LossCode (eventCode : Int) : Prop :=
  eventCode = SESSION_EVENT_CLOSED ∨ eventCode = SESSION_EVENT_ERROR ∨
    eventCode = SESSION_EVENT_AUTHENTICATION_REJECTED

/-- What may make a session manager tell of a loss. -/
def EndsSession : Event → Prop
  | .session result => result.isSessionEvent = true ∧ LossCode result.eventCode
  | .offerFailed result => isConnectionLossFailure (classifyOfferFailure result) = true
  | .publication _ => False

def TellsOfLoss : Notice → Prop
  | .connectionState connected => connected = false
  | .sessionEvent result => LossCode result.eventCode

/-- No callback that is still to be made tells of a loss. -/
def Lossless (s : SessionState) : Prop := ∀ notice ∈ s.notices, ¬ TellsOfLoss notice

theorem Lossless.notify {notice : Notice} (lossless : Lossless s) (harmless : ¬ TellsOfLoss notice) :
    Lossless (s.notify notice) := by
  intro other among
  rcases List.mem_append.mp among with before | last
  · exact lossless other before
  · rwa [List.mem_singleton.mp last]

theorem lossless_handleSessionEvent {result : ParseResult} (lossless : Lossless s)
    (harmless : ¬ EndsSession (.session result)) : Lossless (s.handleSessionEvent result) := by
  cases isEvent : result.isSessionEvent with
  | false => rwa [handleSessionEvent_of_other s isEvent]
  | true =>
      have code : ¬ LossCode result.eventCode := fun loss => harmless ⟨isEvent, loss⟩
      obtain ⟨handled, handles, same⟩ := handleSessionEvent_handles s isEvent
      have kept : Lossless handled := by
        cases handles with
        | ok => exact Lossless.notify lossless Bool.noConfusion
        | redirect => exact lossless
        | error error =>
            refine absurd ?_ code
            exact Or.inr error
        | closed closed => exact absurd (Or.inl closed) code
        | unknown => exact lossless
      rw [same]
      exact kept.notify code

theorem lossless_apply {event : Event} (lossless : Lossless s) (harmless : ¬ EndsSession event) :
    Lossless (s.apply event) := by
  cases event with
  | session result => exact lossless_handleSessionEvent lossless harmless
  | offerFailed result =>
      change Lossless (s.handleOfferFailure result)
      unfold SessionState.handleOfferFailure
      dsimp only
      split
      · exact lossless
      · have stays : ¬ isConnectionLossFailure (classifyOfferFailure result) = true := harmless
        rw [if_neg stays]
        exact lossless
  | publication connected => exact lossless

def KeepsLossless (s after : SessionState) : Prop := Lossless s → Lossless after

instance : IsPreorder SessionState KeepsLossless where
  refl _ := id
  trans _ _ _ first rest := rest ∘ first

/-- In a world in which nothing ends a session, a session manager tells of no loss. -/
theorem admitsIn_keepsLossless {world : Session.Manager.World}
    (harmless : ∀ event, Happens world event → ¬ EndsSession event) :
    AdmitsIn world KeepsLossless where
  event _ event happens lossless := lossless_apply lossless (harmless event happens)
  control _ _ _ _ := id
  sent _ := id
  accepted _ := id
  publication _ _ := id
  leader _ _ := id
  redirect _ := id
  thread _ := id

end Sessions

section Clients

def Interrupts (w : World) : Meanwhile → Prop
  | .session event => EndsSession event
  | .images _ => False
  | .connectionLost _ => True
  | .delivered mem data length => ∃ result reads,
      (parseMessage mem w.json data length).run [] = .ok result reads ∧
        EndsSession (.session result)
  | .driverError _ => True

/-- During a call a loss is told of, or the driver fails: a callback that tells of a loss is still
to be made, or an event or a failed offer may end the session, or other threads interrupt. -/
inductive Disturbed (w : World) (c : Impl) : Prop
  | pending (notice : Notice) : notice ∈ c.sessionManager.session.notices → TellsOfLoss notice →
      Disturbed w c
  | session (event : Event) : Happens w.session event → EndsSession event → Disturbed w c
  | meanwhile (n : Nat) (event : Meanwhile) : event ∈ w.meanwhile n → Interrupts w event →
      Disturbed w c

/-- The polling loop goes on, and the client is not about to be told of a loss. -/
structure Polls (c : Impl) : Prop where
  polling : c.polling.active = true
  lossless : Lossless c.sessionManager.session

def KeepsPolling (c after : Impl) : Prop := Polls c → Polls after

instance : IsPreorder Impl KeepsPolling where
  refl _ := id
  trans _ _ _ first rest := rest ∘ first

theorem Polls.aside {after : Impl} (polls : Polls c) (aside : Aside c after) : Polls after := by
  constructor
  · rw [aside.polling]
    exact polls.polling
  · rw [aside.session]
    exact polls.lossless

theorem keepsPolling_modify {f : Impl → Impl} (aside : ∀ c, Aside c (f c)) :
    Within KeepsPolling (modify f : ClientM Unit) :=
  within_modify fun c polls => polls.aside (aside c)

theorem keepsPolling_onSessionEvent {event : ParseResult} (harmless : ¬ LossCode event.eventCode) :
    Within KeepsPolling (onSessionEvent w event) := by
  unfold LossCode at harmless
  push Not at harmless
  obtain ⟨closed, error, rejected⟩ := harmless
  unfold onSessionEvent
  dsimp only
  rw [if_neg closed, if_neg error, if_neg rejected]
  exact within_ite (keepsPolling_modify fun _ => ⟨rfl, rfl, rfl, rfl, id⟩) (within_pure _)

theorem keepsPolling_onSessionConnectionStateChanged :
    Within KeepsPolling (onSessionConnectionStateChanged w true) := by
  unfold onSessionConnectionStateChanged
  refine within_bind (keepsPolling_modify fun _ => ⟨rfl, rfl, rfl, rfl, id⟩) fun _ => ?_
  exact keepsPolling_modify fun _ => ⟨rfl, rfl, rfl, rfl, nofun⟩

theorem keepsPolling_onNotice {notice : Notice} (harmless : ¬ TellsOfLoss notice) :
    Within KeepsPolling (onNotice w notice) := by
  cases notice with
  | sessionEvent event => exact keepsPolling_onSessionEvent harmless
  | connectionState connected =>
      cases connected with
      | true => exact keepsPolling_onSessionConnectionStateChanged
      | false => exact absurd rfl harmless

theorem keepsPolling_onEventNotice {notice : Notice} (harmless : ¬ TellsOfLoss notice) :
    Within KeepsPolling (onEventNotice w notice) := by
  cases notice with
  | sessionEvent event =>
      exact within_catchException (keepsPolling_onSessionEvent harmless) fun _ => within_pure _
  | connectionState connected =>
      cases connected with
      | true => exact keepsPolling_onSessionConnectionStateChanged
      | false => exact absurd rfl harmless

theorem keepsPolling_callSession {x : SessionM α} (total : Total x)
    (keeps : Within (On KeepsLossless) x) : Within KeepsPolling (callSession w x) := by
  intro c polls
  obtain ⟨a, m, run⟩ := total c.sessionManager
  have told : Lossless m.session := keeps.of_ok run polls.lossless
  have heard : Within KeepsPolling (hear w m.session.notices) :=
    within_forM fun notice among =>
      within_catchException (keepsPolling_onNotice (told notice among)) fun _ => within_pure _
  rw [finalState_callSession run]
  exact heard _ ⟨polls.polling, nofun⟩

theorem keepsPolling_handleSessionEvent {result : ParseResult}
    (harmless : ¬ EndsSession (.session result)) :
    Within KeepsPolling (handleSessionEvent w result) := by
  intro c polls
  have told : Lossless (c.sessionManager.session.handleSessionEvent result) :=
    lossless_handleSessionEvent polls.lossless harmless
  have heard : Within KeepsPolling
      (((c.sessionManager.session.handleSessionEvent result).notices.drop
        c.sessionManager.session.notices.length).forM (onEventNotice w)) :=
    within_forM fun notice among =>
      keepsPolling_onEventNotice (told notice (List.mem_of_mem_drop among))
  exact heard
    { c with
      sessionManager.session :=
        { c.sessionManager.session.handleSessionEvent result with notices := [] } }
    ⟨polls.polling, nofun⟩

theorem core_keepsPolling (harmless : ∀ event, Happens w.session event → ¬ EndsSession event) :
    Core w (Within KeepsPolling) := by
  have admits : AdmitsIn w.session KeepsLossless := admitsIn_keepsLossless harmless
  have append (s : SessionState) (offered : List (List UInt8 × Int)) :
      KeepsLossless s { s with offered := offered } := id
  exact
    { toClosed := closed_within
      aside := fun idle => keepsPolling_modify fun c => (idle c).toAside
      connect := fun _ => keepsPolling_callSession total_connect (within_connect admits.connects)
      publishMessage := fun _ _ _ _ _ _ =>
        keepsPolling_callSession (total_publishMessage _ _ _ _ _) fun _ =>
          on_publishMessage admits.event admits.sent fun _ _ _ _ _ s _ => append s _
      sendCommitOffset := fun _ _ _ _ _ _ _ _ =>
        keepsPolling_callSession (total_sendCombinedMessage _) fun _ =>
          on_sendCombinedMessage admits.event admits.sent fun _ _ s _ => append s _ }

theorem keepsPolling_doMeanwhile (core : Core w (Within KeepsPolling)) {event : Meanwhile}
    (harmless : ¬ Interrupts w event) : Within KeepsPolling (doMeanwhile w event) := by
  cases event with
  | session event =>
      refine keepsPolling_callSession (total_update _) (within_update fun s lossless => ?_)
      exact lossless_apply lossless harmless
  | images count => exact keepsPolling_modify fun _ => ⟨rfl, rfl, rfl, rfl, id⟩
  | connectionLost reason => exact absurd trivial harmless
  | delivered mem data length =>
      refine has_handleIncomingMessage core fun result reads parsed => ?_
      exact keepsPolling_handleSessionEvent fun ends => harmless ⟨result, reads, parsed, ends⟩
  | driverError message => exact absurd trivial harmless

end Clients

end AeronClusterClient.Client.Undisturbed
