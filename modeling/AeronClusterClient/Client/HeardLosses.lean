/- module: AeronClusterClient/Client/HeardLosses
   source: src/cluster_client.cpp (on_session_event, on_session_connection_state_changed,
   notify_connection_loss, handle_aeron_error), src/session_manager.cpp (handle_session_error,
   handle_session_closed, handle_connection_loss)
   digest: A client whose session is lost hears of it and leaves CONNECTED. -/

import AeronClusterClient.Client.Operations
import AeronClusterClient.Session.Established

/-!
A session is lost with a notice, and the notices of a call reach the client at
its end. A client that would report a loss is therefore not connected any more
once the call that has lost the session is over.
-/

set_option autoImplicit false
set_option relaxedAutoImplicit false

namespace AeronClusterClient.Client.HeardLosses

open Lib.Action Client.State Client.Frames Client.Connection Client.Programs Client.SessionEffects
open Sbe.Parser (ParseResult)
open Session.Manager (SessionState SessionM Notice)
open Session.Connect
open Session.Established (Follows View view replay admits_follows follows_apply follows_of_same)
open Session.Updates (On handleSessionEvent_handles handleSessionEvent_of_other within_connect
  within_update on_publishMessage on_sendCombinedMessage)
open Text (StdString ascii)

variable {w : World} {c after : Impl} {α : Type}

section Invariant

/-- A loss would be reported: reports are not suppressed, and a client that is connected has not
reported any since it connected. -/
structure Armed (c : Impl) : Prop where
  heard : c.suppressDisconnectNotifications = false
  unnotified : c.connectionState = .connected → c.disconnectNotified = false

/-- The client is not connected, and reports are not suppressed. -/
structure Down (c : Impl) : Prop where
  heard : c.suppressDisconnectNotifications = false
  unconnected : c.connectionState ≠ .connected

/-- A client that is connected has a session that is connected, and would report its loss. -/
structure Fresh (c : Impl) : Prop extends Armed c where
  current : c.connectionState = .connected → c.sessionManager.session.connected = true

theorem Down.armed (down : Down c) : Armed c :=
  ⟨down.heard, fun connected => absurd connected down.unconnected⟩

theorem Down.fresh (down : Down c) : Fresh c :=
  ⟨down.armed, fun connected => absurd connected down.unconnected⟩

theorem Armed.aside (armed : Armed c) (aside : Aside c after) : Armed after := by
  refine ⟨aside.suppressed.trans armed.heard, fun connected => ?_⟩
  rw [aside.connectionState] at connected
  rw [← Bool.not_eq_true]
  exact fun notified => absurd (aside.notified notified) (by simp [armed.unnotified connected])

theorem Down.aside (down : Down c) (aside : Aside c after) : Down after := by
  refine ⟨aside.suppressed.trans down.heard, ?_⟩
  rw [aside.connectionState]
  exact down.unconnected

theorem Fresh.aside (fresh : Fresh c) (aside : Aside c after) : Fresh after := by
  refine ⟨fresh.toArmed.aside aside, fun connected => ?_⟩
  rw [aside.session]
  rw [aside.connectionState] at connected
  exact fresh.current connected

end Invariant

section Notices

/-- What a client does when it hears of something: it goes on hearing, does not become connected,
and leaves the session alone. -/
structure Listens (c after : Impl) : Prop where
  armed : Armed c → Armed after
  down : Down c → Down after
  session : after.sessionManager.session = c.sessionManager.session

instance : IsPreorder Impl Listens where
  refl _ := ⟨id, id, rfl⟩
  trans _ _ _ first rest :=
    ⟨rest.armed ∘ first.armed, rest.down ∘ first.down, rest.session.trans first.session⟩

theorem listens_of_aside (aside : Aside c after) : Listens c after :=
  ⟨fun armed => armed.aside aside, fun down => down.aside aside, aside.session⟩

theorem listens_modify {f : Impl → Impl} (aside : ∀ c, Aside c (f c)) :
    Within Listens (modify f : ClientM Unit) :=
  within_modify fun c => listens_of_aside (aside c)

theorem listens_callErrorCallback (text : StdString) : Within Listens (callErrorCallback w text) := by
  intro c
  unfold finalState
  rw [callErrorCallback_run]
  by_cases present : c.errorCallback = true
  · rw [if_pos present, callUser_run]
    cases w.callback c.sessionManager.looks with
    | ok _ => exact listens_of_aside ⟨rfl, rfl, rfl, rfl, id⟩
    | error what => exact listens_of_aside ⟨rfl, rfl, rfl, rfl, id⟩
  · rw [if_neg present]
    exact refl_of Listens c

theorem listens_scheduleAutoReconnect (reason : StdString) :
    Within Listens (scheduleAutoReconnect reason) := by
  unfold scheduleAutoReconnect
  refine within_bind (listens_modify fun _ => ⟨rfl, rfl, rfl, rfl, id⟩) fun _ => ?_
  refine within_bind within_get fun c => within_ite (within_pure _) (within_ite (within_pure _) ?_)
  exact listens_modify fun _ => ⟨rfl, rfl, rfl, rfl, id⟩

theorem heard_announced {newState : ConnectionState}
    (heard : c.suppressDisconnectNotifications = false) :
    (announced newState c).suppressDisconnectNotifications = false := by
  unfold announced
  split
  · exact heard
  · exact heard

theorem down_setConnectionState {newState : ConnectionState} (other : newState ≠ .connected)
    (heard : c.suppressDisconnectNotifications = false) :
    Down (finalState (setConnectionState w newState) c) := by
  rw [finalState_setConnectionState]
  refine ⟨heard_announced heard, ?_⟩
  rw [announced_connectionState]
  exact other

/-- A client that hears of a loss is not connected afterwards, whether it reports the loss or not. -/
theorem down_notifyConnectionLoss (armed : Armed c) (reason : StdString) (allowAutoReconnect : Bool) :
    Down (finalState (notifyConnectionLoss w reason allowAutoReconnect) c) := by
  by_cases unreported : Unreported c
  · rw [finalState_of_ok (notifyConnectionLoss_unreported unreported reason allowAutoReconnect)]
    refine ⟨armed.heard, fun connected => ?_⟩
    rcases unreported with suppressed | notified
    · rw [armed.heard] at suppressed
      cases suppressed
    · rw [armed.unnotified connected] at notified
      cases notified
  · have told : Down (finalState (setConnectionState w .disconnected) (lost c)) :=
      down_setConnectionState (by decide) armed.heard
    have rest : Within Listens (do
        callErrorCallback w reason
        if allowAutoReconnect && (← get).autoReconnectEnabled then scheduleAutoReconnect reason) := by
      refine within_bind (listens_callErrorCallback reason) fun _ => within_bind within_get fun c => ?_
      exact within_ite (listens_scheduleAutoReconnect reason) (within_pure _)
    have both := (after_bind (x := setConnectionState w .disconnected) (fun _ => rest) (lost c)).down told
    unfold finalState at both ⊢
    rw [notifyConnectionLoss_reported unreported]
    exact both

theorem listens_notifyConnectionLoss (reason : StdString) (allowAutoReconnect : Bool) :
    Within Listens (notifyConnectionLoss w reason allowAutoReconnect) := by
  intro c
  have same : Holds Eq c (finalState (notifyConnectionLoss w reason allowAutoReconnect) c) :=
    noted_notifyConnectionLoss noting_holds reason allowAutoReconnect c
  exact ⟨fun armed => (down_notifyConnectionLoss armed reason allowAutoReconnect).armed,
    fun down => down_notifyConnectionLoss down.armed reason allowAutoReconnect, same.symm⟩

theorem listens_onSessionEvent (event : ParseResult) : Within Listens (onSessionEvent w event) := by
  unfold onSessionEvent
  refine within_ite (listens_modify fun _ => ⟨rfl, rfl, rfl, rfl, id⟩) ?_
  refine within_ite (listens_notifyConnectionLoss _ _) ?_
  refine within_ite (listens_notifyConnectionLoss _ _) ?_
  exact within_ite (listens_notifyConnectionLoss _ _) (within_pure _)

theorem listens_onSessionConnectionStateChanged (connected : Bool) :
    Within Listens (onSessionConnectionStateChanged w connected) := by
  unfold onSessionConnectionStateChanged
  refine within_bind (listens_modify fun _ => ⟨rfl, rfl, rfl, rfl, id⟩) fun _ => ?_
  refine within_ite ?_ (listens_notifyConnectionLoss _ _)
  exact listens_modify fun _ => ⟨rfl, rfl, rfl, rfl, nofun⟩

theorem down_onSessionConnectionStateChanged (armed : Armed c) :
    Down (finalState (onSessionConnectionStateChanged w false) c) := by
  have noted : Aside c { c with stats.isConnected := false } := ⟨rfl, rfl, rfl, rfl, id⟩
  exact down_notifyConnectionLoss (armed.aside noted) _ _

theorem listens_onNotice (notice : Notice) : Within Listens (onNotice w notice) := by
  cases notice with
  | connectionState connected => exact listens_onSessionConnectionStateChanged connected
  | sessionEvent event => exact listens_onSessionEvent event

theorem listens_onEventNotice (notice : Notice) : Within Listens (onEventNotice w notice) := by
  cases notice with
  | connectionState connected => exact listens_onSessionConnectionStateChanged connected
  | sessionEvent event =>
      exact within_catchException (listens_onSessionEvent event) fun _ => within_pure _

def hear (w : World) (notices : List Notice) : ClientM Unit :=
  notices.forM (fun notice => catchException (onNotice w notice) (fun _ => return ()))

theorem listens_hear (notices : List Notice) : Within Listens (hear w notices) :=
  within_forM fun notice _ => within_catchException (listens_onNotice notice) fun _ => within_pure _

theorem down_hear {notices : List Notice} (armed : Armed c)
    (loss : .connectionState false ∈ notices) : Down (finalState (hear w notices) c) := by
  induction notices generalizing c with
  | nil => cases loss
  | cons notice notices ih =>
      change Down (finalState (catchException (onNotice w notice) (fun _ => return ()) >>=
        fun _ => hear w notices) c)
      rcases List.mem_cons.mp loss with rfl | later
      · have told : Down (finalState (onNotice w (.connectionState false)) c) :=
          down_onSessionConnectionStateChanged armed
        have caught := (after_catchException (R := Listens) (fun _ => within_pure ()) c).down told
        exact (after_bind (fun _ => listens_hear notices) c).down caught
      · have guarded : Within Listens (catchException (onNotice w notice) (fun _ => return ())) :=
          within_catchException (listens_onNotice notice) fun _ => within_pure _
        obtain ⟨_, mid, run⟩ := total_catchException
          (noted_onNotice noting_catchable (w := w) notice) () c
        rw [finalState_bind_of_ok run]
        exact ih ((guarded.of_ok run).armed armed) later

end Notices

section Calls

/-- The flag of a connected session is cleared with a notice only. -/
theorem connected_of_replay {view : View} {notices : List Notice} (connected : view.connected = true)
    (kept : .connectionState false ∉ notices) : (notices.foldl replay view).connected = true := by
  induction notices generalizing view with
  | nil => exact connected
  | cons notice notices ih =>
      rw [List.mem_cons, not_or] at kept
      refine ih ?_ kept.2
      cases notice with
      | connectionState flag =>
          cases flag with
          | true => rfl
          | false => exact absurd rfl kept.1
      | sessionEvent event =>
          simp only [replay]
          split
          · rfl
          · split
            · exact connected
            · exact connected

def KeepsFresh (c after : Impl) : Prop := Fresh c → Fresh after

instance : IsPreorder Impl KeepsFresh where
  refl _ := id
  trans _ _ _ first rest := rest ∘ first

theorem keepsFresh_modify {f : Impl → Impl} (aside : ∀ c, Aside c (f c)) :
    Within KeepsFresh (modify f : ClientM Unit) :=
  within_modify fun c fresh => fresh.aside (aside c)

theorem finalState_callSession {x : SessionM α} {a : α} {m : Session.Manager.Machine}
    (run : x.run c.sessionManager = .ok a m) :
    finalState (callSession w x) c = finalState (hear w m.session.notices)
      { c with sessionManager := { m with session.notices := [] } } := by
  rw [← finalState_bind_pure (hear w m.session.notices) (fun _ => a)]
  unfold finalState
  rw [callSession_of_ok run]
  rfl

theorem keepsFresh_callSession {x : SessionM α} (total : Total x) (follows : Within (On Follows) x) :
    Within KeepsFresh (callSession w x) := by
  intro c fresh
  obtain ⟨a, m, run⟩ := total c.sessionManager
  have armed : Armed { c with sessionManager := { m with session.notices := [] } } :=
    ⟨fresh.heard, fresh.unnotified⟩
  have heard := listens_hear (w := w) m.session.notices
    { c with sessionManager := { m with session.notices := [] } }
  rw [finalState_callSession run]
  refine ⟨heard.armed armed, fun connected => ?_⟩
  have before : c.connectionState = .connected := by
    by_contra unconnected
    exact (heard.down ⟨fresh.heard, unconnected⟩).unconnected connected
  have quiet : .connectionState false ∉ m.session.notices := fun loss =>
    (down_hear armed loss).unconnected connected
  obtain ⟨made, noticed, replayed⟩ : Follows c.sessionManager.session m.session := follows.of_ok run
  have kept : (view m.session).connected = true := by
    rw [replayed]
    refine connected_of_replay (fresh.current before) fun loss => quiet ?_
    rw [noticed]
    exact List.mem_append_right _ loss
  rw [heard.session]
  exact kept

theorem armed_callSession {x : SessionM α} (total : Total x) (armed : Armed c) :
    Armed (finalState (callSession w x) c) := by
  obtain ⟨a, m, run⟩ := total c.sessionManager
  rw [finalState_callSession run]
  exact (listens_hear _ _).armed ⟨armed.heard, armed.unnotified⟩

/-- The notices of a session event; a loss comes first. -/
theorem notices_handleSessionEvent (s : SessionState) (result : ParseResult) :
    ∃ made, (s.handleSessionEvent result).notices = s.notices ++ made ∧
      (s.connected = true → (s.handleSessionEvent result).connected = true ∨
        made.head? = some (.connectionState false)) := by
  cases isEvent : result.isSessionEvent with
  | false =>
      rw [handleSessionEvent_of_other s isEvent]
      exact ⟨[], (List.append_nil _).symm, Or.inl⟩
  | true =>
      obtain ⟨handled, handles, same⟩ := handleSessionEvent_handles s isEvent
      rw [same]
      cases handles with
      | ok code =>
          exact ⟨[.connectionState true, .sessionEvent result], List.append_assoc _ _ _,
            fun _ => Or.inl rfl⟩
      | redirect code => exact ⟨[.sessionEvent result], rfl, Or.inl⟩
      | error code =>
          exact ⟨[.connectionState false, .sessionEvent result], List.append_assoc _ _ _,
            fun _ => Or.inr rfl⟩
      | closed code =>
          exact ⟨[.connectionState false, .sessionEvent result], List.append_assoc _ _ _,
            fun _ => Or.inr rfl⟩
      | unknown notOk notClosed => exact ⟨[.sessionEvent result], rfl, Or.inl⟩

theorem keepsFresh_handleSessionEvent (result : ParseResult) :
    Within KeepsFresh (handleSessionEvent w result) := by
  intro c fresh
  obtain ⟨made, noticed, kept⟩ := notices_handleSessionEvent c.sessionManager.session result
  have listens (notices : List Notice) : Within Listens (notices.forM (onEventNotice w)) :=
    within_forM fun notice _ => listens_onEventNotice notice
  rw [finalState_congr (handleSessionEvent_run noticed)]
  generalize started : ({ c with
    sessionManager.session :=
      { c.sessionManager.session.handleSessionEvent result with notices := [] } } : Impl) = d
  have armed : Armed d := by
    subst started
    exact ⟨fresh.heard, fresh.unnotified⟩
  refine ⟨(listens made d).armed armed, fun connected => ?_⟩
  have before : d.connectionState = .connected := by
    by_contra unconnected
    exact ((listens made d).down ⟨armed.heard, unconnected⟩).unconnected connected
  have current : c.sessionManager.session.connected = true := by
    subst started
    exact fresh.current before
  rw [(listens made d).session]
  rcases kept current with still | loss
  · subst started
    exact still
  · cases made with
    | nil => cases loss
    | cons notice notices =>
        obtain rfl : notice = .connectionState false := Option.some.inj loss
        have told : Down (finalState (onEventNotice w (.connectionState false)) d) :=
          down_onSessionConnectionStateChanged armed
        have rest := (after_bind (x := onEventNotice w (.connectionState false))
          (fun _ => listens notices) d).down told
        exact absurd connected rest.unconnected

theorem keepsFresh_handleAeronError (message : StdString) :
    Within KeepsFresh (handleAeronError w message) := by
  unfold handleAeronError
  refine within_bind (keepsFresh_modify fun _ => ⟨rfl, rfl, rfl, rfl, id⟩) fun _ => ?_
  refine within_get_bind fun c fresh => ?_
  split
  · exact fresh
  · have armed : Armed (finalState (stopPolling .driver) { c with fatalErrorDetected := true }) :=
      ⟨fresh.heard, fresh.unnotified⟩
    -- the session is closed without a notice, and the loss is reported after that
    have disconnects : Total (Session.Manager.disconnect c.config w.session) := total_disconnect
    obtain ⟨_, closed, closes⟩ := total_callSession (w := w) disconnects
      (finalState (stopPolling .driver) { c with fatalErrorDetected := true })
    have cleaned : (do
        stopPolling .driver
        callSession w (Session.Manager.disconnect c.config w.session) : ClientM Unit).run
          { c with fatalErrorDetected := true } = .ok () closed :=
      bind_eq_ok.mpr ⟨(), _, rfl, closes⟩
    have still : Armed closed := by
      rw [← finalState_of_ok closes]
      exact armed_callSession total_disconnect armed
    change Fresh (finalState (catchException (do
        stopPolling .driver
        callSession w (Session.Manager.disconnect c.config w.session)) (fun _ => return ()) >>=
      fun _ => notifyConnectionLoss w (ascii "Aeron MediaDriver error: " ++ message) false)
        { c with fatalErrorDetected := true })
    rw [finalState_bind_of_ok (catchException_of_ok cleaned)]
    exact (down_notifyConnectionLoss still _ _).fresh

/-- Everything that a client does by itself keeps it fresh, and so do its publications. -/
theorem basis_keepsFresh : Basis w (Within KeepsFresh) where
  toClosed := closed_within
  aside := fun idle => keepsFresh_modify fun c => (idle c).toAside
  notifyConnectionLoss := fun _ _ _ fresh => (down_notifyConnectionLoss fresh.toArmed _ _).fresh
  handleSessionEvent := keepsFresh_handleSessionEvent
  handleAeronError := keepsFresh_handleAeronError
  event := fun event => keepsFresh_callSession (total_update _)
    (within_update fun s => follows_apply s event)
  connect := fun _ => keepsFresh_callSession total_connect (within_connect admits_follows.connects)
  publishMessage := fun _ _ _ _ _ _ => keepsFresh_callSession (total_publishMessage _ _ _ _ _)
    fun _ => on_publishMessage admits_follows.everywhere.event admits_follows.sent
      fun _ _ _ _ _ _ _ => follows_of_same rfl rfl
  sendCommitOffset := fun _ _ _ _ _ _ _ _ => keepsFresh_callSession (total_sendCombinedMessage _)
    fun _ => on_sendCombinedMessage admits_follows.everywhere.event admits_follows.sent
      fun _ _ _ _ => follows_of_same rfl rfl

end Calls

end AeronClusterClient.Client.HeardLosses
