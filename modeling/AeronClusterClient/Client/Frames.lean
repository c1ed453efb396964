/- module: AeronClusterClient/Client/Frames
   generality: every world, every client state
   digest: What notifications, sends and guards may change in a client, as two-state relations. -/

import AeronClusterClient.Client.State
import Mathlib.Logic.Relation

set_option autoImplicit false
set_option relaxedAutoImplicit false

namespace AeronClusterClient.Client.Frames

open Lib.Action Client.State
open Session.Manager (Notice SessionM)
open Sbe.Parser (ParseResult)
open Text (StdString)

/-- One way in which the polling loop stops. -/
inductive PollingStep : Polling → Polling → Prop
  | clear (p : Polling) : PollingStep p p.clear
  | join (p : Polling) : p.joinable = true → PollingStep p p.join

/-- What everything but subscription requests and starting has in common: the polling loop
may stop and is not started, the client does not become connected, and the subscriptions
stay as they are. -/
structure Steady (c after : Impl) : Prop where
  polling : Relation.ReflTransGen PollingStep c.polling after.polling
  connectionState : after.connectionState = .connected → c.connectionState = .connected
  subscriptions : after.subscriptions = c.subscriptions

/-- In addition, a client that is not connected hands nothing to the session manager. -/
structure Quiet (c after : Impl) : Prop extends Steady c after where
  handed : c.connectionState ≠ .connected → after.handed = c.handed

/-- What sending may do to a client: it delivers no message and touches no commit. -/
structure Sends (c after : Impl) : Prop extends Steady c after where
  messages : after.messages = c.messages
  processedMessages : after.processedMessages = c.processedMessages
  commitManager : after.commitManager = c.commitManager
  stored : after.stored = c.stored

/-- What a notification may do to a client: as much as sending, with nothing handed to the
session manager. -/
structure Disturbs (c after : Impl) : Prop extends Sends c after where
  handed : after.handed = c.handed

theorem Steady.trans {c mid after : Impl} (first : Steady c mid) (rest : Steady mid after) :
    Steady c after where
  polling := first.polling.trans rest.polling
  connectionState := fun connected => first.connectionState (rest.connectionState connected)
  subscriptions := rest.subscriptions.trans first.subscriptions

theorem Steady.unconnected {c after : Impl} (steady : Steady c after)
    (unconnected : c.connectionState ≠ .connected) : after.connectionState ≠ .connected :=
  mt steady.connectionState unconnected

instance : IsPreorder Impl Steady where
  refl _ := ⟨.refl, id, rfl⟩
  trans _ _ _ := Steady.trans

theorem Quiet.trans {c mid after : Impl} (first : Quiet c mid) (rest : Quiet mid after) :
    Quiet c after :=
  ⟨first.toSteady.trans rest.toSteady, fun unconnected =>
    (rest.handed (first.toSteady.unconnected unconnected)).trans (first.handed unconnected)⟩

instance : IsPreorder Impl Quiet where
  refl c := ⟨refl_of Steady c, fun _ => rfl⟩
  trans _ _ _ := Quiet.trans

instance : IsPreorder Impl Sends where
  refl c := ⟨refl_of Steady c, rfl, rfl, rfl, rfl⟩
  trans _ _ _ first rest :=
    ⟨first.toSteady.trans rest.toSteady, rest.messages.trans first.messages,
      rest.processedMessages.trans first.processedMessages,
      rest.commitManager.trans first.commitManager, rest.stored.trans first.stored⟩

instance : IsPreorder Impl Disturbs where
  refl c := ⟨refl_of Sends c, rfl⟩
  trans _ _ _ first rest :=
    ⟨trans_of Sends first.toSends rest.toSends, rest.handed.trans first.handed⟩

theorem Disturbs.quiet {c after : Impl} (disturbs : Disturbs c after) : Quiet c after :=
  ⟨disturbs.toSteady, fun _ => disturbs.handed⟩

def UnlessConnected (c after : Impl) : Prop := c.connectionState ≠ .connected → after = c

instance : IsPreorder Impl UnlessConnected where
  refl _ _ := rfl
  trans _ mid _ first rest := fun unconnected => by
    have same := first unconnected
    exact (rest (by rwa [same])).trans same

section Rules

variable {R : Impl → Impl → Prop} {α : Type}

theorem within_catchException_comp {Q S : Impl → Impl → Prop} {x : ClientM α}
    {handler : StdString → ClientM α} (hx : Within Q x) (hh : ∀ what, Within S (handler what))
    (normal : ∀ c after, Q c after → R c after)
    (both : ∀ c mid after, Q c mid → S mid after → R c after) :
    Within R (catchException x handler) := by
  refine within_tryCatch_comp (S := fun c after => after = c ∨ S c after) hx (fun raised => ?_)
    normal ?_
  · cases raised with
    | exception what => exact fun c => .inr (hh what c)
    | terminate => exact fun c => .inl rfl
  · rintro c mid after first (rfl | rest)
    · exact normal _ _ first
    · exact both c mid after first rest

variable [IsPreorder Impl R]

theorem within_catchException {x : ClientM α} {handler : StdString → ClientM α}
    (hx : Within R x) (hh : ∀ what, Within R (handler what)) :
    Within R (catchException x handler) :=
  within_catchException_comp hx hh (fun _ _ h => h) (fun _ _ _ => trans_of R)

theorem after_catchException {x : ClientM α} {handler : StdString → ClientM α}
    (handled : ∀ what, Within R (handler what)) (c : Impl) :
    R (finalState x c) (finalState (catchException x handler) c) := by
  refine after_tryCatch (fun raised => ?_) c
  cases raised with
  | exception what => exact handled what
  | terminate => exact within_throw _

theorem within_orThrow (x : Except StdString α) : Within R (orThrow x) := by
  cases x with
  | ok a => exact within_pure a
  | error what => exact within_throw _

end Rules

variable {w : World} {α : Type}

theorem quiet_of_disturbs {x : ClientM α} (disturbs : Within Disturbs x) : Within Quiet x :=
  disturbs.mono fun _ _ => Disturbs.quiet

theorem sends_of_disturbs {x : ClientM α} (disturbs : Within Disturbs x) : Within Sends x :=
  disturbs.mono fun _ _ => Disturbs.toSends

/-- The fields that `Disturbs` speaks about. -/
def lasting (c : Impl) :=
  (c.polling, c.connectionState, c.subscriptions, c.messages, c.processedMessages,
    c.commitManager, c.stored, c.handed)

theorem disturbs_of_lasting {c after : Impl} (same : lasting after = lasting c) :
    Disturbs c after := by
  simp only [lasting, Prod.mk.injEq] at same
  obtain ⟨polling, connectionState, subscriptions, messages, processedMessages, commitManager,
    stored, handed⟩ := same
  refine ⟨⟨⟨?_, connectionState.symm.trans, subscriptions⟩, messages, processedMessages, commitManager,
    stored⟩, handed⟩
  rw [polling]

theorem disturbs_modify {f : Impl → Impl} (same : ∀ c, lasting (f c) = lasting c) :
    Within Disturbs (modify f : ClientM Unit) :=
  within_modify fun c => disturbs_of_lasting (same c)

theorem disturbs_answer (answers : Nat → α) : Within Disturbs (answer answers) := by
  unfold answer
  refine within_bind within_get (fun c => within_bind ?_ fun _ => within_pure _)
  exact disturbs_modify fun _ => rfl

theorem disturbs_callUser {call : Called} (other : call.message? = none) :
    Within Disturbs (callUser w call) := by
  unfold callUser
  refine within_bind (disturbs_modify fun c => ?_) fun _ => ?_
  · simp [lasting, Impl.messages, Impl.subscriptions, other]
  · exact within_bind (disturbs_answer _) within_orThrow

theorem disturbs_callErrorCallback (text : StdString) :
    Within Disturbs (callErrorCallback w text) := by
  unfold callErrorCallback
  exact within_bind within_get fun c => within_ite (disturbs_callUser rfl) (within_pure _)

theorem disturbs_setConnectionState {newState : ConnectionState}
    (unconnected : newState ≠ .connected) : Within Disturbs (setConnectionState w newState) := by
  unfold setConnectionState
  refine within_bind within_get fun c => within_bind (within_modify fun s => ?_) fun _ => ?_
  · exact ⟨⟨⟨.refl, fun connected => absurd connected unconnected, rfl⟩, rfl, rfl, rfl, rfl⟩, rfl⟩
  · exact within_bind within_get fun c => within_ite (disturbs_callUser rfl) (within_pure _)

theorem disturbs_scheduleAutoReconnect (reason : StdString) :
    Within Disturbs (scheduleAutoReconnect reason) := by
  unfold scheduleAutoReconnect
  refine within_bind (disturbs_modify fun _ => rfl) fun _ => ?_
  refine within_bind within_get fun c => within_ite (within_pure _) (within_ite (within_pure _) ?_)
  exact disturbs_modify fun _ => rfl

theorem disturbs_notifyConnectionLoss (reason : StdString) (allowAutoReconnect : Bool) :
    Within Disturbs (notifyConnectionLoss w reason allowAutoReconnect) := by
  unfold notifyConnectionLoss
  refine within_bind within_get fun c => within_ite (within_pure _) (within_ite (within_pure _) ?_)
  refine within_bind (within_modify fun s => ?_) fun _ => ?_
  · exact ⟨⟨⟨.single (.clear _), id, rfl⟩, rfl, rfl, rfl, rfl⟩, rfl⟩
  · refine within_bind (disturbs_setConnectionState (by decide)) fun _ => ?_
    refine within_bind (disturbs_callErrorCallback reason) fun _ => ?_
    exact within_bind within_get fun c =>
      within_ite (disturbs_scheduleAutoReconnect reason) (within_pure _)

theorem disturbs_onSessionEvent (event : ParseResult) : Within Disturbs (onSessionEvent w event) := by
  unfold onSessionEvent
  refine within_ite (disturbs_modify fun _ => rfl) ?_
  refine within_ite (disturbs_notifyConnectionLoss _ _) ?_
  refine within_ite (disturbs_notifyConnectionLoss _ _) ?_
  exact within_ite (disturbs_notifyConnectionLoss _ _) (within_pure _)

theorem disturbs_onSessionConnectionStateChanged (connected : Bool) :
    Within Disturbs (onSessionConnectionStateChanged w connected) := by
  unfold onSessionConnectionStateChanged
  refine within_bind (disturbs_modify fun _ => rfl) fun _ => ?_
  refine within_ite ?_ (disturbs_notifyConnectionLoss _ _)
  exact disturbs_modify fun _ => rfl

theorem disturbs_onNotice (notice : Notice) : Within Disturbs (onNotice w notice) := by
  cases notice with
  | connectionState connected => exact disturbs_onSessionConnectionStateChanged connected
  | sessionEvent result => exact disturbs_onSessionEvent result

theorem disturbs_onEventNotice (notice : Notice) : Within Disturbs (onEventNotice w notice) := by
  cases notice with
  | connectionState connected => exact disturbs_onSessionConnectionStateChanged connected
  | sessionEvent result =>
      exact within_catchException (disturbs_onSessionEvent result) fun _ => within_pure _

theorem disturbs_takeNotices : Within Disturbs takeNotices := by
  unfold takeNotices
  refine within_bind within_get fun c => within_bind ?_ fun _ => within_pure _
  exact disturbs_modify fun _ => rfl

theorem runSession_of_ok {x : SessionM α} {c : Impl} {a : α} {m : Session.Manager.Machine}
    (run : x.run c.sessionManager = .ok a m) :
    (runSession x).run c = .ok a { c with sessionManager := m } := by
  unfold runSession EStateM.run at *
  dsimp only
  rw [run]

theorem runSession_of_error {x : SessionM α} {c : Impl} {what : StdString}
    {m : Session.Manager.Machine} (run : x.run c.sessionManager = .error what m) :
    (runSession x).run c = .error (.exception what) { c with sessionManager := m } := by
  unfold runSession EStateM.run at *
  dsimp only
  rw [run]

theorem callSession_of_ok {x : SessionM α} {c : Impl} {a : α} {m : Session.Manager.Machine}
    (run : x.run c.sessionManager = .ok a m) :
    (callSession w x).run c =
      (m.session.notices.forM (fun notice => catchException (onNotice w notice) (fun _ => return ())) >>=
        fun _ => pure a : ClientM α).run
          { c with sessionManager := { m with session.notices := [] } } := by
  unfold callSession
  rw [EStateM.run_bind, runSession_of_ok run]
  rfl

theorem disturbs_runSession (x : SessionM α) : Within Disturbs (runSession x) := by
  intro c
  cases run : x.run c.sessionManager with
  | ok a m =>
      rw [finalState_of_ok (runSession_of_ok run)]
      exact disturbs_of_lasting rfl
  | error what m =>
      rw [finalState_of_error (runSession_of_error run)]
      exact disturbs_of_lasting rfl

theorem disturbs_callSession (x : SessionM α) : Within Disturbs (callSession w x) := by
  unfold callSession
  refine within_bind (disturbs_runSession x) fun a => within_bind disturbs_takeNotices fun notices => ?_
  refine within_bind (within_forM fun notice _ => ?_) fun _ => within_pure _
  exact within_catchException (disturbs_onNotice notice) fun _ => within_pure _

theorem disturbs_handleSessionEvent (result : ParseResult) :
    Within Disturbs (handleSessionEvent w result) := by
  unfold handleSessionEvent
  refine within_bind within_get fun c => within_bind (disturbs_runSession _) fun a => ?_
  refine within_bind disturbs_takeNotices fun notices => ?_
  exact within_forM fun notice _ => disturbs_onEventNotice notice

theorem handleSessionEvent_run {result : ParseResult} {c : Impl} {made : List Notice}
    (noticed : (c.sessionManager.session.handleSessionEvent result).notices =
      c.sessionManager.session.notices ++ made) :
    (handleSessionEvent w result).run c = (made.forM (onEventNotice w) : ClientM Unit).run
      { c with
        sessionManager.session :=
          { c.sessionManager.session.handleSessionEvent result with notices := [] } } := by
  have run : (handleSessionEvent w result).run c =
      (((c.sessionManager.session.handleSessionEvent result).notices.drop
        c.sessionManager.session.notices.length).forM (onEventNotice w) : ClientM Unit).run
        { c with
          sessionManager.session :=
            { c.sessionManager.session.handleSessionEvent result with notices := [] } } := rfl
  rwa [noticed, List.drop_left] at run

theorem disturbs_throwIfDriverTerminated : Within Disturbs throwIfDriverTerminated := by
  unfold throwIfDriverTerminated
  exact within_bind within_get fun c => within_ite (within_pure _) (within_throw _)

theorem disturbs_ensureConnectedOrThrow : Within Disturbs ensureConnectedOrThrow := by
  unfold ensureConnectedOrThrow
  refine within_bind disturbs_throwIfDriverTerminated fun _ => ?_
  exact within_bind within_get fun c => within_ite (within_throw _) (within_pure _)

theorem catchException_of_ok {x : ClientM α} {handler : StdString → ClientM α} {c after : Impl} {a : α}
    (run : x.run c = .ok a after) : (catchException x handler).run c = .ok a after :=
  tryCatch_of_ok run

theorem catchException_of_exception {x : ClientM α} {handler : StdString → ClientM α}
    {c after : Impl} {what : StdString} (run : x.run c = .error (.exception what) after) :
    (catchException x handler).run c = (handler what).run after :=
  tryCatch_of_error run

theorem catchException_of_terminate {x : ClientM α} {handler : StdString → ClientM α}
    {c after : Impl} (run : x.run c = .error .terminate after) :
    (catchException x handler).run c = .error .terminate after :=
  tryCatch_of_error run

theorem of_catchException_eq_ok {x : ClientM α} {handler : StdString → ClientM α} {c after : Impl}
    {a : α} (other : ∀ what mid, (handler what).run mid ≠ .ok a after)
    (run : (catchException x handler).run c = .ok a after) : x.run c = .ok a after := by
  cases body : x.run c with
  | ok b mid =>
      have returns : (catchException x handler).run c = .ok b mid := catchException_of_ok body
      rwa [← returns]
  | error raised mid =>
      cases raised with
      | exception what =>
          rw [catchException_of_exception body] at run
          exact absurd run (other what mid)
      | terminate =>
          rw [catchException_of_terminate body] at run
          cases run

theorem isConnected_of_unconnected {c : Impl} (unconnected : c.connectionState ≠ .connected) :
    c.isConnected = false := by
  simp [Impl.isConnected, unconnected]

theorem throwIfDriverTerminated_of_healthy {c : Impl} (healthy : c.fatalErrorDetected = false) :
    throwIfDriverTerminated.run c = .ok () c := by
  unfold throwIfDriverTerminated
  rw [EStateM.run_bind, EStateM.run_get]
  dsimp only
  rw [healthy]
  rfl

theorem throwIfDriverTerminated_of_fatal {c : Impl} (fatal : c.fatalErrorDetected = true) :
    ∃ what, throwIfDriverTerminated.run c = .error (.exception what) c := by
  unfold throwIfDriverTerminated
  rw [EStateM.run_bind, EStateM.run_get]
  dsimp only
  rw [fatal]
  exact ⟨_, rfl⟩

theorem throwIfDriverTerminated_run (c : Impl) :
    throwIfDriverTerminated.run c = .ok () c ∨
      ∃ what, throwIfDriverTerminated.run c = .error (.exception what) c := by
  cases driver : c.fatalErrorDetected with
  | false => exact .inl (throwIfDriverTerminated_of_healthy driver)
  | true => exact .inr (throwIfDriverTerminated_of_fatal driver)

theorem ensureConnectedOrThrow_run (c : Impl) :
    c.isConnected = true ∧ ensureConnectedOrThrow.run c = .ok () c ∨
      ∃ what, ensureConnectedOrThrow.run c = .error (.exception what) c := by
  unfold ensureConnectedOrThrow
  rw [EStateM.run_bind]
  rcases throwIfDriverTerminated_run c with run | ⟨what, run⟩
  · rw [run]
    dsimp only
    rw [EStateM.run_bind, EStateM.run_get]
    dsimp only
    cases c.isConnected with
    | true => exact .inl ⟨rfl, rfl⟩
    | false => exact .inr ⟨_, rfl⟩
  · rw [run]
    exact .inr ⟨what, rfl⟩

theorem ensureConnectedOrThrow_unconnected {c : Impl}
    (unconnected : c.connectionState ≠ .connected) :
    ∃ what, ensureConnectedOrThrow.run c = .error (.exception what) c := by
  rcases ensureConnectedOrThrow_run c with ⟨connected, -⟩ | refused
  · rw [isConnected_of_unconnected unconnected] at connected
    cases connected
  · exact refused

/-- A client that has called its user. -/
def told (call : Called) (c : Impl) : Impl :=
  { c with
    called := c.called ++ [call]
    sessionManager.looks := c.sessionManager.looks + 1 }

theorem callUser_run (call : Called) (c : Impl) :
    (callUser w call).run c =
      match w.callback c.sessionManager.looks with
      | .ok () => .ok () (told call c)
      | .error what => .error (.exception what) (told call c) := by
  change (orThrow (w.callback c.sessionManager.looks) : ClientM Unit).run (told call c) = _
  cases w.callback c.sessionManager.looks with
  | ok _ => rfl
  | error what => rfl

theorem setConnectionState_run (newState : ConnectionState) (c : Impl) :
    (setConnectionState w newState).run c =
      if c.connectionState ≠ newState ∧ c.connectionStateCallback = true then
        (callUser w (.connectionState c.connectionState newState)).run
          { c with connectionState := newState }
      else .ok () { c with connectionState := newState } := by
  have run : (setConnectionState w newState).run c =
      (if c.connectionState ≠ newState && c.connectionStateCallback then
        callUser w (.connectionState c.connectionState newState) else pure () : ClientM Unit).run
        { c with connectionState := newState } := rfl
  rw [run]
  by_cases told : c.connectionState ≠ newState ∧ c.connectionStateCallback = true
  · rw [if_pos told, if_pos (by simpa using told)]
  · rw [if_neg told, if_neg (by simpa using told)]
    rfl

def StateCallbackThrows (w : World) (newState : ConnectionState) (c : Impl) : Prop :=
  c.connectionState ≠ newState ∧ c.connectionStateCallback = true ∧
    ∃ what, w.callback c.sessionManager.looks = .error what

/-- A client that has stored a new state, and called its user if the state is another one. -/
def announced (newState : ConnectionState) (c : Impl) : Impl :=
  if c.connectionState ≠ newState ∧ c.connectionStateCallback = true then
    told (.connectionState c.connectionState newState) { c with connectionState := newState }
  else { c with connectionState := newState }

theorem announced_connectionState (newState : ConnectionState) (c : Impl) :
    (announced newState c).connectionState = newState := by
  unfold announced
  split
  · rfl
  · rfl

theorem setConnectionState_throws {newState : ConnectionState} {c : Impl}
    (throws : StateCallbackThrows w newState c) :
    ∃ what, (setConnectionState w newState).run c = .error (.exception what) (announced newState c) := by
  obtain ⟨other, present, what, answered⟩ := throws
  refine ⟨what, ?_⟩
  unfold announced
  rw [setConnectionState_run, if_pos ⟨other, present⟩, callUser_run, if_pos ⟨other, present⟩]
  dsimp only
  rw [answered]

theorem setConnectionState_returns {newState : ConnectionState} {c : Impl}
    (returns : ¬ StateCallbackThrows w newState c) :
    (setConnectionState w newState).run c = .ok () (announced newState c) := by
  unfold announced
  rw [setConnectionState_run]
  by_cases called : c.connectionState ≠ newState ∧ c.connectionStateCallback = true
  · rw [if_pos called, callUser_run, if_pos called]
    dsimp only
    cases answered : w.callback c.sessionManager.looks with
    | ok _ => rfl
    | error what => exact absurd ⟨called.1, called.2, what, answered⟩ returns
  · rw [if_neg called, if_neg called]

theorem finalState_setConnectionState (newState : ConnectionState) (c : Impl) :
    finalState (setConnectionState w newState) c = announced newState c := by
  by_cases throws : StateCallbackThrows w newState c
  · obtain ⟨what, thrown⟩ := setConnectionState_throws throws
    exact finalState_of_error thrown
  · exact finalState_of_ok (setConnectionState_returns throws)

theorem callErrorCallback_run (text : StdString) (c : Impl) :
    (callErrorCallback w text).run c =
      if c.errorCallback = true then (callUser w (.error text)).run c else .ok () c := by
  unfold callErrorCallback
  rw [EStateM.run_bind, EStateM.run_get]
  dsimp only
  split
  · rfl
  · rfl

/-- A loss is not reported: reports are suppressed, or one has been made since the last connect. -/
def Unreported (c : Impl) : Prop :=
  c.suppressDisconnectNotifications = true ∨ c.disconnectNotified = true

instance (c : Impl) : Decidable (Unreported c) := inferInstanceAs (Decidable (_ ∨ _))

/-- What the first report of a loss writes before it calls anyone. -/
def lost (c : Impl) : Impl :=
  { c with
    disconnectNotified := true
    stats.isConnected := false
    stats.currentSessionId := -1
    stats.currentLeaderId := -1
    polling := c.polling.clear }

theorem notifyConnectionLoss_unreported {c : Impl} (unreported : Unreported c) (reason : StdString)
    (allowAutoReconnect : Bool) :
    (notifyConnectionLoss w reason allowAutoReconnect).run c = .ok () c := by
  unfold notifyConnectionLoss
  rw [EStateM.run_bind, EStateM.run_get]
  dsimp only
  by_cases suppressed : c.suppressDisconnectNotifications = true
  · rw [if_pos suppressed]
    rfl
  · have notified : c.disconnectNotified = true := unreported.resolve_left suppressed
    rw [if_neg suppressed, if_pos notified]
    rfl

theorem notifyConnectionLoss_reported {c : Impl} (reported : ¬ Unreported c) (reason : StdString)
    (allowAutoReconnect : Bool) :
    (notifyConnectionLoss w reason allowAutoReconnect).run c = (do
      setConnectionState w .disconnected
      callErrorCallback w reason
      if allowAutoReconnect && (← get).autoReconnectEnabled then
        scheduleAutoReconnect reason : ClientM Unit).run (lost c) := by
  have unsuppressed : ¬ c.suppressDisconnectNotifications = true := fun h => reported (Or.inl h)
  have unnotified : ¬ c.disconnectNotified = true := fun h => reported (Or.inr h)
  unfold notifyConnectionLoss
  rw [EStateM.run_bind, EStateM.run_get]
  dsimp only
  rw [if_neg unsuppressed, if_neg unnotified]
  rfl

theorem disturbs_clearDriverErrorState : Within Disturbs clearDriverErrorState :=
  disturbs_modify fun _ => rfl

theorem disturbs_stopPolling (caller : Caller) : Within Disturbs (stopPolling caller) := by
  refine within_modify fun c => ⟨⟨⟨?_, id, rfl⟩, rfl, rfl, rfl, rfl⟩, rfl⟩
  change Relation.ReflTransGen PollingStep c.polling
    (if c.polling.joinable && caller ≠ .polling then c.polling.join else c.polling.clear)
  split
  · rename_i joins
    exact .single (.join _ (Bool.and_eq_true_iff.mp joins).1)
  · exact .single (.clear _)

end AeronClusterClient.Client.Frames
