/- module: AeronClusterClient/Client/PollingThread
   source: src/cluster_client.cpp (start_polling, stop_polling, notify_connection_loss, connect,
   disconnect, reconnect_async, schedule_auto_reconnect)
   digest: When the polling thread may be replaced by a new one. -/

import AeronClusterClient.Client.Acts
import AeronClusterClient.Client.Programs
import AeronClusterClient.Client.ResumeOnConnect

/-!
A connection loss clears the flag of the polling loop and leaves its thread to
be joined by somebody else; `start_polling` looks at the flag only, and
replacing a thread that is still joinable ends the process.
-/

set_option autoImplicit false
set_option relaxedAutoImplicit false

namespace AeronClusterClient.Client.PollingThread

open Lib.Action Lib.Runs Client.State Client.Frames Client.Subscriptions Client.Connection
open Client.Programs Client.Acts
open Client.ResumeOnConnect (accepting)
open Session.Manager (Notice SessionM)
open Text (StdString)

/-- The last thing that happened to the polling loop is that its flag was cleared without a join. -/
def OwesJoin (p : Polling) : Prop := p.history.head? = some .cleared

instance (p : Polling) : Decidable (OwesJoin p) :=
  inferInstanceAs (Decidable (p.history.head? = some .cleared))

/-- The process lives, and the thread is joinable exactly while the loop runs or a join is owed. -/
structure Safe (p : Polling) : Prop where
  alive : p.terminated = false
  runs : p.active = true → p.joinable = true
  owes : OwesJoin p ↔ p.joinable = true ∧ p.active = false

section Invariant

variable {p q : Polling}

theorem safe_clear (safe : Safe p) : Safe p.clear := by
  obtain ⟨active, joinable, history, terminated⟩ := p
  obtain ⟨alive, runs, owes⟩ := safe
  cases active with
  | true => exact ⟨alive, by simp [Polling.clear], by simpa [OwesJoin, Polling.clear] using runs⟩
  | false => exact ⟨alive, by simp [Polling.clear], owes⟩

theorem safe_join (safe : Safe p) : Safe p.join :=
  ⟨safe.alive, by simp [Polling.join], by simp [OwesJoin, Polling.join]⟩

theorem not_owesJoin_join : ¬ OwesJoin p.join := by
  simp [OwesJoin, Polling.join]

theorem safe_windsDown (safe : Safe p) (steps : Relation.ReflTransGen PollingStep p q) : Safe q := by
  induction steps with
  | refl => exact safe
  | tail _ step ih =>
      cases step with
      | clear => exact safe_clear ih
      | join => exact safe_join ih

theorem safe_startPolling {c : Impl} (safe : Safe c.polling) (settled : ¬ OwesJoin c.polling) :
    Safe (finalState startPolling c).polling := by
  unfold startPolling finalState
  rw [EStateM.run_bind, EStateM.run_get]
  dsimp only
  by_cases active : c.polling.active = true
  · rw [if_pos active]
    exact safe
  · have detached : c.polling.joinable = false := by
      rw [← Bool.not_eq_true]
      exact fun joinable => settled (safe.owes.mpr ⟨joinable, by simpa using active⟩)
    rw [if_neg active, EStateM.run_bind, EStateM.run_get]
    dsimp only
    rw [if_neg (by simp [detached])]
    exact ⟨safe.alive, fun _ => rfl, by simp [OwesJoin]⟩

end Invariant

section Programs

variable {w : World} {α β : Type}

def KeepsSafe (c after : Impl) : Prop := Safe c.polling → Safe after.polling

instance : IsPreorder Impl KeepsSafe where
  refl _ := id
  trans _ _ _ first rest := rest ∘ first

theorem keepsSafe_of_disturbs {x : ClientM α} (disturbs : Within Disturbs x) : Within KeepsSafe x :=
  disturbs.mono fun _ _ h safe => safe_windsDown safe h.polling

theorem keepsSafe_modify {f : Impl → Impl} (same : ∀ c, (f c).polling = c.polling) :
    Within KeepsSafe (modify f : ClientM Unit) :=
  within_modify fun c safe => by rwa [same]

theorem basis_keepsSafe : Basis w (Within KeepsSafe) where
  toClosed := closed_within
  aside := fun aside => keepsSafe_modify fun c => (aside c).polling
  notifyConnectionLoss := fun _ _ => keepsSafe_of_disturbs (disturbs_notifyConnectionLoss _ _)
  handleSessionEvent := fun _ => keepsSafe_of_disturbs (disturbs_handleSessionEvent _)
  handleAeronError := fun _ => keepsSafe_of_disturbs (disturbs_handleAeronError _)
  event := fun _ => keepsSafe_of_disturbs (disturbs_callSession _)
  connect := fun _ => keepsSafe_of_disturbs (disturbs_callSession _)
  publishMessage := fun _ _ _ _ _ _ => keepsSafe_of_disturbs (disturbs_callSession _)
  sendCommitOffset := fun _ _ _ _ _ _ _ _ => keepsSafe_of_disturbs (disturbs_callSession _)

def SamePolling (c after : Impl) : Prop := after.polling = c.polling

instance : IsPreorder Impl SamePolling where
  refl _ := rfl
  trans _ _ _ first rest := Eq.trans rest first

theorem samePolling_callUser (call : Called) : Within SamePolling (callUser w call) := by
  unfold callUser answer
  refine within_bind (within_modify fun _ => rfl) fun _ => within_bind ?_ within_orThrow
  exact within_bind within_get fun c => within_bind (within_modify fun _ => rfl) fun _ => within_pure _

theorem samePolling_setConnectionState (newState : ConnectionState) :
    Within SamePolling (setConnectionState w newState) := by
  unfold setConnectionState
  refine within_bind within_get fun c => within_bind (within_modify fun _ => rfl) fun _ => ?_
  exact within_bind within_get fun _ => within_ite (samePolling_callUser _) (within_pure _)

theorem keepsSafe_setConnectionState (newState : ConnectionState) :
    Within KeepsSafe (setConnectionState w newState) :=
  (samePolling_setConnectionState newState).mono fun c after same safe => by
    rwa [show after.polling = c.polling from same]

/-- What a program that may start the loop does to a state that owes no join. -/
def KeepsSettled (c after : Impl) : Prop :=
  Safe c.polling → ¬ OwesJoin c.polling → Safe after.polling

theorem keepsSettled_bind {x : ClientM α} {f : α → ClientM β} (same : Within SamePolling x)
    (rest : ∀ a, Within KeepsSettled (f a)) : Within KeepsSettled (x >>= f) := by
  refine within_bind_comp same rest (fun c after same safe _ => ?_) fun c mid after same rest => ?_
  · rwa [show after.polling = c.polling from same]
  · unfold KeepsSettled at rest
    rwa [show mid.polling = c.polling from same] at rest

theorem samePolling_initializeAeron : Within SamePolling (initializeAeron w) := by
  unfold initializeAeron
  split
  · exact within_bind (within_modify fun _ => rfl) fun _ => within_pure _
  · exact within_pure _

theorem keepsSafe_openSession (won : ClientM Bool) (same : Within KeepsSafe won) :
    Within KeepsSafe (do
      match ← openSession w with
      | none => won
      | some result =>
          enterSession w result
          setConnectionState w .connected
          return true) := by
  refine within_bind (has_openSession basis_keepsSafe.toCore basis_keepsSafe.pause) fun opened => ?_
  cases opened with
  | none => exact same
  | some result =>
      refine within_bind (has_enterSession basis_keepsSafe.toCore basis_keepsSafe.pause result) fun _ => ?_
      exact within_bind (keepsSafe_setConnectionState _) fun _ => within_pure _

private theorem keepsSafe_failed : Within KeepsSafe (do
    setConnectionState w .failed
    return false : ClientM Bool) :=
  within_bind (keepsSafe_setConnectionState _) fun _ => within_pure _

theorem keepsSettled_connectSteps : Within KeepsSettled (connectSteps w) := by
  unfold connectSteps
  refine keepsSettled_bind (within_modify fun _ => rfl) fun _ => ?_
  refine keepsSettled_bind samePolling_initializeAeron fun ready => ?_
  refine within_ite (keepsSafe_failed.mono fun _ _ h safe _ => h safe) ?_
  refine within_bind_comp (Q := KeepsSettled) (fun c => safe_startPolling)
    (fun _ => keepsSafe_openSession _ keepsSafe_failed) (fun _ _ h => h) ?_
  exact fun _ _ _ first rest safe settled => rest (first safe settled)

theorem keepsSafe_connectSteps (what : StdString) (refused : w.connectAeron = .error what) :
    Within KeepsSafe (connectSteps w) := by
  unfold connectSteps initializeAeron
  rw [refused]
  exact within_bind (keepsSafe_modify fun _ => rfl) fun _ => keepsSafe_failed

/-- A connect call in this state gets to `start_polling`. -/
def StartsPolling (w : World) (c : Impl) : Prop :=
  c.connectionState ≠ .connected ∧ w.connectAeron = .ok ()

/-- What a call does to a safe state from which no polling is started while a join is owed. -/
def StartsSafely (w : World) (c after : Impl) : Prop :=
  Safe c.polling → (StartsPolling w c → ¬ OwesJoin c.polling) → Safe after.polling

theorem startsSafely_connect : Within (StartsSafely w) (connect w) := by
  unfold connect
  refine within_get_bind fun c => ?_
  split
  · exact fun safe _ => safe
  · rename_i unconnected
    intro safe settled
    cases driver : w.connectAeron with
    | error what =>
        have kept : Within KeepsSafe (do
            setConnectionState w .connecting
            catchException (connectSteps w) (fun _ => do
              setConnectionState w .failed
              return false)) :=
          within_bind (keepsSafe_setConnectionState _) fun _ =>
            within_catchException (keepsSafe_connectSteps what driver) fun _ => keepsSafe_failed
        exact kept c safe
    | ok _ =>
        have kept : Within KeepsSettled (do
            setConnectionState w .connecting
            catchException (connectSteps w) (fun _ => do
              setConnectionState w .failed
              return false)) := by
          refine keepsSettled_bind (samePolling_setConnectionState _) fun _ => ?_
          refine within_catchException_comp keepsSettled_connectSteps (fun _ => keepsSafe_failed)
            (fun _ _ h => h) ?_
          exact fun _ _ _ first rest safe settled => rest (first safe settled)
        exact kept c safe (settled ⟨unconnected, driver⟩)

end Programs

section Suppression

variable {w : World} {α : Type}

/-- While notifications are suppressed they stay so, and neither the polling loop nor the
connection state is touched. -/
def Silenced (c after : Impl) : Prop :=
  c.suppressDisconnectNotifications = true →
    after.suppressDisconnectNotifications = true ∧ after.polling = c.polling ∧
      after.connectionState = c.connectionState

instance : IsPreorder Impl Silenced where
  refl _ suppressed := ⟨suppressed, rfl, rfl⟩
  trans _ _ _ first rest suppressed := by
    obtain ⟨still, polling, state⟩ := first suppressed
    obtain ⟨last, polling', state'⟩ := rest still
    exact ⟨last, polling'.trans polling, state'.trans state⟩

theorem silenced_modify {f : Impl → Impl}
    (same : ∀ c, (f c).suppressDisconnectNotifications = c.suppressDisconnectNotifications ∧
      (f c).polling = c.polling ∧ (f c).connectionState = c.connectionState) :
    Within Silenced (modify f : ClientM Unit) :=
  within_modify fun c suppressed => ⟨(same c).1.trans suppressed, (same c).2⟩

theorem silenced_notifyConnectionLoss (reason : StdString) (allowAutoReconnect : Bool) :
    Within Silenced (notifyConnectionLoss w reason allowAutoReconnect) := by
  unfold notifyConnectionLoss
  refine within_get_bind fun c suppressed => ?_
  rw [if_pos suppressed]
  exact ⟨suppressed, rfl, rfl⟩

theorem silenced_onNotice (notice : Notice) : Within Silenced (onNotice w notice) := by
  cases notice with
  | connectionState connected =>
      change Within Silenced (onSessionConnectionStateChanged w connected)
      unfold onSessionConnectionStateChanged
      refine within_bind (silenced_modify fun _ => ⟨rfl, rfl, rfl⟩) fun _ => ?_
      refine within_ite ?_ (silenced_notifyConnectionLoss _ _)
      exact silenced_modify fun _ => ⟨rfl, rfl, rfl⟩
  | sessionEvent event =>
      change Within Silenced (onSessionEvent w event)
      unfold onSessionEvent
      refine within_ite (silenced_modify fun _ => ⟨rfl, rfl, rfl⟩) ?_
      refine within_ite (silenced_notifyConnectionLoss _ _) ?_
      refine within_ite (silenced_notifyConnectionLoss _ _) ?_
      exact within_ite (silenced_notifyConnectionLoss _ _) (within_pure _)

theorem silenced_callSession (x : SessionM α) : Within Silenced (callSession w x) := by
  unfold callSession takeNotices
  refine within_bind ?_ fun a => ?_
  · intro c suppressed
    unfold finalState EStateM.run runSession
    cases run : x.run c.sessionManager with
    | ok a m => exact ⟨suppressed, rfl, rfl⟩
    | error what m => exact ⟨suppressed, rfl, rfl⟩
  · refine within_bind (within_bind within_get fun c => within_bind ?_ fun _ => within_pure _)
      fun notices => ?_
    · exact silenced_modify fun _ => ⟨rfl, rfl, rfl⟩
    · refine within_bind (within_forM fun notice _ => ?_) fun _ => within_pure _
      exact within_catchException (silenced_onNotice notice) fun _ => within_pure _

theorem silenced_closeSession : Within Silenced (closeSession w) := by
  unfold closeSession
  exact within_bind within_get fun c => silenced_callSession _

def Untouched (c after : Impl) : Prop :=
  after.polling = c.polling ∧ after.connectionState = c.connectionState

instance : IsPreorder Impl Untouched where
  refl _ := ⟨rfl, rfl⟩
  trans _ _ _ first rest := ⟨rest.1.trans first.1, rest.2.trans first.2⟩

/-- The body of a suppressed program runs with reports suppressed, and they are heard again after
it however it ends. -/
theorem finalState_suppressingNotifications (body : ClientM Unit) (c : Impl) :
    finalState (suppressingNotifications body) c =
      { finalState body { c with suppressDisconnectNotifications := true } with
        suppressDisconnectNotifications := false } := by
  have begun : finalState (suppressingNotifications body) c = finalState (do
      tryCatch body (fun raised => do
        modify (fun c => { c with suppressDisconnectNotifications := false })
        throw raised)
      modify (fun c => { c with suppressDisconnectNotifications := false }))
        { c with suppressDisconnectNotifications := true } := rfl
  rw [begun]
  cases run : body.run { c with suppressDisconnectNotifications := true } with
  | ok _ mid =>
      rw [finalState_bind_of_ok (tryCatch_of_ok run), finalState_of_ok run]
      rfl
  | error raised mid =>
      have thrown : (tryCatch body (fun raised => do
          modify (fun c => { c with suppressDisconnectNotifications := false })
          throw raised) : ClientM Unit).run { c with suppressDisconnectNotifications := true } =
            .error raised { mid with suppressDisconnectNotifications := false } :=
        tryCatch_of_error run
      rw [finalState_bind_of_error thrown, finalState_of_error run]

theorem untouched_suppressingNotifications {body : ClientM Unit} (silenced : Within Silenced body) :
    Within Untouched (suppressingNotifications body) := by
  intro c
  rw [finalState_suppressingNotifications]
  exact (silenced { c with suppressDisconnectNotifications := true } rfl).2

theorem suppressingNotifications_eq_ok {body : ClientM Unit} {c after : Impl}
    (run : (suppressingNotifications body).run c = .ok () after) :
    ∃ mid, body.run { c with suppressDisconnectNotifications := true } = .ok () mid ∧
      after.polling = mid.polling := by
  unfold suppressingNotifications at run
  obtain ⟨_, _, ⟨⟩, run⟩ := bind_eq_ok.mp run
  obtain ⟨_, mid, guarded, ⟨⟩⟩ := bind_eq_ok.mp run
  refine ⟨mid, of_tryCatch_eq_ok (fun raised u returns => ?_) guarded, rfl⟩
  obtain ⟨_, _, -, ⟨⟩⟩ := bind_eq_ok.mp returns

end Suppression

section Calls

variable {w : World} {c after : Impl}

theorem keepsSafe_closeSession : Within KeepsSafe (closeSession w) := by
  unfold closeSession
  exact within_bind within_get fun c => keepsSafe_of_disturbs (disturbs_callSession _)

theorem keepsSafe_suppressingNotifications {body : ClientM Unit} (kept : Within KeepsSafe body) :
    Within KeepsSafe (suppressingNotifications body) := by
  unfold suppressingNotifications
  refine within_bind (keepsSafe_modify fun _ => rfl) fun _ => ?_
  refine within_bind (within_tryCatch kept fun raised => ?_) fun _ => keepsSafe_modify fun _ => rfl
  exact within_bind (keepsSafe_modify fun _ => rfl) fun _ => within_throw _

theorem keepsSafe_stopPolling (caller : Caller) : Within KeepsSafe (stopPolling caller) :=
  keepsSafe_of_disturbs (disturbs_stopPolling caller)

theorem keepsSafe_disconnect (caller : Caller) : Within KeepsSafe (disconnect w caller) := by
  unfold disconnect
  refine within_bind within_get fun c => keepsSafe_suppressingNotifications ?_
  refine within_bind keepsSafe_closeSession fun _ => within_ite ?_ (within_pure _)
  refine within_bind (keepsSafe_stopPolling caller) fun _ => ?_
  refine within_bind (keepsSafe_setConnectionState _) fun _ => ?_
  exact within_bind (keepsSafe_modify fun _ => rfl) fun _ => keepsSafe_modify fun _ => rfl

/-- Another thread than the loop's own leaves no join owed when it stops the loop. -/
theorem settled_stopPolling {caller : Caller} (other : caller ≠ .polling) (safe : Safe c.polling) :
    ¬ OwesJoin (finalState (stopPolling caller) c).polling := by
  change ¬ OwesJoin (if c.polling.joinable && caller ≠ .polling then c.polling.join
    else c.polling.clear)
  cases joinable : c.polling.joinable with
  | true =>
      rw [if_pos (by simpa using other)]
      exact not_owesJoin_join
  | false =>
      rw [if_neg (by simp)]
      intro owes
      have detached := ((safe_clear safe).owes.mp owes).1
      rw [show c.polling.clear.joinable = c.polling.joinable from rfl, joinable] at detached
      cases detached

/-- A disconnect call that returns has joined the loop of a connected client, and leaves the
loop of any other client as it was. -/
theorem settled_disconnect (safe : Safe c.polling)
    (settled : c.connectionState ≠ .connected → ¬ OwesJoin c.polling)
    (run : (disconnect w .user).run c = .ok () after) : ¬ OwesJoin after.polling := by
  unfold disconnect at run
  obtain ⟨_, _, ⟨⟩, run⟩ := bind_eq_ok.mp run
  dsimp only at run
  by_cases connected : c.connectionState = .connected
  · obtain ⟨mid, body, polling⟩ := suppressingNotifications_eq_ok run
    obtain ⟨_, closed, closing, body⟩ := bind_eq_ok.mp body
    rw [if_pos connected] at body
    obtain ⟨_, stopped, stopping, body⟩ := bind_eq_ok.mp body
    have tail : Within SamePolling (do
        setConnectionState w .disconnected
        releaseAeron
        modify (fun c => { c with
          stats.currentSessionId := -1
          stats.currentLeaderId := -1
          stats.isConnected := false })) :=
      within_bind (samePolling_setConnectionState _) fun _ =>
        within_bind (within_modify fun _ => rfl) fun _ => within_modify fun _ => rfl
    rw [polling, show mid.polling = stopped.polling from tail.of_ok body, ← finalState_of_ok stopping]
    exact settled_stopPolling (by decide) (keepsSafe_closeSession.of_ok closing safe)
  · rw [if_neg connected] at run
    have silenced : Within Silenced (closeSession w >>= fun _ => pure ()) :=
      within_bind silenced_closeSession fun _ => within_pure _
    rw [((untouched_suppressingNotifications silenced).of_ok run).1]
    exact settled connected

theorem startsSafely_reconnect : Within (StartsSafely w) (reconnect w) := by
  intro c
  refine bind_from (fun e mid run safe _ => keepsSafe_disconnect .user |>.of_error run safe) ?_
  intro _ mid run safe settled
  refine startsSafely_connect mid (keepsSafe_disconnect .user |>.of_ok run safe) fun starts => ?_
  exact settled_disconnect safe (fun unconnected => settled ⟨unconnected, starts.2⟩) run

theorem startsSafely_bind {α β : Type} {x : ClientM α} {f : α → ClientM β}
    (untouched : Within Untouched x) (rest : ∀ a, Within (StartsSafely w) (f a)) :
    Within (StartsSafely w) (x >>= f) := by
  refine within_bind_comp untouched rest (fun c after same safe _ => ?_) fun c mid after same rest => ?_
  · rwa [same.1]
  · unfold StartsSafely StartsPolling at rest
    rwa [same.1, same.2] at rest

theorem startsSafely_reconnectOnce (made : Nat) (reason : StdString) :
    Within (StartsSafely w) (reconnectOnce w made reason) := by
  have silenced : Within Silenced (catchException (closeSession w) (fun _ => return ())) :=
    within_catchException silenced_closeSession fun _ => within_pure _
  unfold reconnectOnce
  refine startsSafely_bind (untouched_suppressingNotifications silenced) fun _ => ?_
  refine startsSafely_bind (within_modify fun _ => ⟨rfl, rfl⟩) fun _ => ?_
  refine within_bind_comp (S := KeepsSafe) startsSafely_connect (fun won => ?_) (fun _ _ h => h)
    (fun _ _ _ first rest safe settled => rest (first safe settled))
  refine within_ite (keepsSafe_modify fun _ => rfl) ?_
  exact within_bind (keepsSafe_stopPolling _) fun _ => keepsSafe_modify fun _ => rfl

theorem keepsSafe_autoReconnectGiveUp (reason : StdString) :
    Within KeepsSafe (autoReconnectGiveUp w reason) := by
  unfold autoReconnectGiveUp
  refine within_bind (keepsSafe_modify fun _ => rfl) fun _ => within_bind within_get fun c => ?_
  exact within_ite (keepsSafe_of_disturbs (disturbs_callErrorCallback _)) (within_pure _)

theorem keepsSafe_autoReconnectBegin : Within KeepsSafe autoReconnectBegin := by
  unfold autoReconnectBegin
  refine within_bind within_get fun c => ?_
  split
  · exact within_bind (keepsSafe_modify fun _ => rfl) fun _ => keepsSafe_stopPolling _
  · exact within_pure _

/-- The auto-reconnect thread is about to make an attempt. -/
def Attempts (c : Impl) : Prop :=
  c.autoReconnectEnabled = true ∧ ∃ made reason, c.autoReconnectThread = some (made, reason) ∧
    made < MAX_RECONNECT_ATTEMPTS

theorem safe_autoReconnectAttempt : Within (fun c after => Safe c.polling →
    (Attempts c → StartsPolling w c → ¬ OwesJoin c.polling) → Safe after.polling)
    (autoReconnectAttempt w) := by
  unfold autoReconnectAttempt
  refine within_get_bind fun c safe settled => ?_
  split
  · exact safe
  · rename_i made reason thread
    split
    · exact keepsSafe_autoReconnectGiveUp reason c safe
    · rename_i attempts
      rw [Bool.or_eq_true, not_or, Bool.not_eq_true', Bool.not_eq_false, decide_eq_true_iff,
        Nat.not_le] at attempts
      exact startsSafely_reconnectOnce made reason c safe
        (settled ⟨attempts.1, made, reason, thread, attempts.2⟩)

end Calls

section Runs

/-- A call that gets to `start_polling` is made while no join is owed. -/
def JoinsFirst (c : Impl) (step : Step) : Prop :=
  match step.act with
  | .startPolling => ¬ OwesJoin c.polling
  | .connect | .reconnect => StartsPolling step.world c → ¬ OwesJoin c.polling
  | .autoReconnectAttempt => Attempts c → StartsPolling step.world c → ¬ OwesJoin c.polling
  | _ => True

theorem safe_take {c : Impl} {step : Step} (safe : Safe c.polling) (joins : JoinsFirst c step) :
    Safe (take step c).polling := by
  obtain ⟨w, act⟩ := step
  have drop {x : ClientM Bool} (startsSafely : Within (StartsSafely w) x) :
      Within (StartsSafely w) (do let _ ← x) :=
    within_bind_comp (S := Eq) startsSafely (fun _ _ => rfl) (fun _ _ h => h)
      fun _ _ _ first same => same ▸ first
  cases act with
  | connect => exact drop startsSafely_connect c safe joins
  | reconnect => exact drop startsSafely_reconnect c safe joins
  | autoReconnectAttempt => exact safe_autoReconnectAttempt c safe joins
  | startPolling => exact safe_startPolling safe joins
  | disconnect caller => exact keepsSafe_disconnect caller c safe
  | stopPolling caller => exact keepsSafe_stopPolling caller c safe
  | setAutoReconnect enabled => exact safe
  | autoReconnectBegin => exact keepsSafe_autoReconnectBegin c safe
  | event event => exact has_doMeanwhile basis_keepsSafe event c safe
  | subscribe topic messageIdentifier resumeStrategy instanceIdentifier =>
      have kept : Within KeepsSafe (do
          let _ ← sendSubscriptionRequest w topic messageIdentifier resumeStrategy
            instanceIdentifier) :=
        has_drop closed_within (has_sendSubscriptionRequest basis_keepsSafe.toCore _ _ _ _)
      exact kept c safe
  | unsubscribe topic messageIdentifier =>
      have kept : Within KeepsSafe (do
          let _ ← sendUnsubscriptionRequest w topic messageIdentifier) :=
        has_drop closed_within (has_sendUnsubscriptionRequest basis_keepsSafe.toCore _ _)
      exact kept c safe
  | commit offset => exact has_commitMessage basis_keepsSafe.toCore offset c safe

section Sample

def freshClient : Impl := { config := {} }

def connectStep : Step := ⟨accepting, .connect⟩

def lossStep : Step := ⟨accepting, .event (.connectionLost [])⟩

def stopStep : Step := ⟨accepting, .stopPolling .user⟩

end Sample

end Runs

end AeronClusterClient.Client.PollingThread
