/- module: AeronClusterClient/Client/StateReports
   source: src/cluster_client.cpp (set_connection_state, connect, disconnect, notify_connection_loss)
   digest: What the state callback is told over a whole run, as a path through the connection states. -/

import AeronClusterClient.Client.ConnectSteps
import AeronClusterClient.Client.Operations

/-!
Every change of the connection state goes through `set_connection_state`, which
tells the callback of it before anything else is changed. Between the first and
the last update of a connect call the state may only be lost, so that the moves
a user can be told of are few.
-/

set_option autoImplicit false
set_option relaxedAutoImplicit false

namespace AeronClusterClient.Client.StateReports

open Lib.Action Lib.Runs
open Client.State Client.Frames Client.Subscriptions Client.Connection Client.ConnectSteps
open Client.Programs Client.Operations
open Config (ClusterClientConfig)
open Session.Manager (SessionM Notice)
open Sbe.Parser (ParseResult)
open Text (StdString ascii)

/-- The moves from one connection state to another. Nothing leads to `reconnecting`. -/
inductive Moves : ConnectionState → ConnectionState → Prop
  | begins {s : ConnectionState} : s ≠ .connecting → s ≠ .connected → Moves s .connecting
  | succeeds {s : ConnectionState} : s = .connecting ∨ s = .disconnected → Moves s .connected
  | fails {s : ConnectionState} : s ≠ .failed → Moves s .failed
  | loses {s : ConnectionState} : s ≠ .disconnected → Moves s .disconnected

/-- What the user is told of these moves. -/
def heard (c : Impl) (way : List (ConnectionState × ConnectionState)) :
    List (ConnectionState × ConnectionState) :=
  if c.connectionStateCallback then way else []

/-- The state takes a path, and the callback is told of each of its moves. -/
structure Travels (c after : Impl) : Prop where
  wants : after.connectionStateCallback = c.connectionStateCallback
  path : ∃ way, Path Moves c.connectionState way after.connectionState ∧
    after.changes = c.changes ++ heard c way

/-- The same of a state that is lost at most, with what the user is told. -/
structure Loses (c after : Impl) : Prop where
  wants : after.connectionStateCallback = c.connectionStateCallback
  change : after.connectionState = c.connectionState ∧ after.changes = c.changes ∨
    c.connectionState ≠ .disconnected ∧ after.connectionState = .disconnected ∧
      after.changes = c.changes ++ heard c [(c.connectionState, .disconnected)]

section Relations

theorem heard_append (c : Impl) (first rest : List (ConnectionState × ConnectionState)) :
    heard c (first ++ rest) = heard c first ++ heard c rest := by
  unfold heard
  split
  · rfl
  · rfl

theorem Travels.trans {c mid after : Impl} (first : Travels c mid) (rest : Travels mid after) :
    Travels c after := by
  obtain ⟨way, begun, told⟩ := first.path
  obtain ⟨more, goes, told'⟩ := rest.path
  refine ⟨rest.wants.trans first.wants, way ++ more, begun.append goes, ?_⟩
  have same : heard mid more = heard c more := by
    unfold heard
    rw [first.wants]
  rw [told', told, same, heard_append, List.append_assoc]

theorem travels_of_same {c after : Impl} (state : after.connectionState = c.connectionState)
    (same : announcements after = announcements c) : Travels c after := by
  simp only [announcements, Prod.mk.injEq] at same
  refine ⟨same.2, [], ?_, ?_⟩
  · rw [state]
    exact .nil _
  · unfold heard
    rw [same.1]
    simp

instance : IsPreorder Impl Travels where
  refl _ := travels_of_same rfl rfl
  trans _ _ _ := Travels.trans

theorem loses_of_same {c after : Impl} (state : after.connectionState = c.connectionState)
    (same : announcements after = announcements c) : Loses c after := by
  simp only [announcements, Prod.mk.injEq] at same
  exact ⟨same.2, .inl ⟨state, same.1⟩⟩

theorem Loses.trans {c mid after : Impl} (first : Loses c mid) (rest : Loses mid after) :
    Loses c after := by
  refine ⟨rest.wants.trans first.wants, ?_⟩
  rcases first.change with ⟨state, told⟩ | ⟨there, lost, told⟩
  · have same : heard mid [(mid.connectionState, .disconnected)] =
        heard c [(c.connectionState, .disconnected)] := by
      unfold heard
      rw [first.wants, state]
    have later := rest.change
    rwa [same, state, told] at later
  · rcases rest.change with ⟨state, told'⟩ | ⟨again, -⟩
    · exact .inr ⟨there, state.trans lost, told'.trans told⟩
    · exact absurd lost again

instance : IsPreorder Impl Loses where
  refl _ := loses_of_same rfl rfl
  trans _ _ _ := Loses.trans

theorem travels_of_loses {c after : Impl} (loses : Loses c after) : Travels c after := by
  refine ⟨loses.wants, ?_⟩
  rcases loses.change with ⟨state, told⟩ | ⟨there, lost, told⟩
  · refine ⟨[], ?_, ?_⟩
    · rw [state]
      exact .nil _
    · unfold heard
      rw [told]
      simp
  · refine ⟨[(c.connectionState, .disconnected)], ?_, told⟩
    rw [lost]
    exact .single (.loses there)

theorem Loses.connectionState {c after : Impl} (loses : Loses c after) :
    after.connectionState = c.connectionState ∨ after.connectionState = .disconnected :=
  loses.change.imp And.left fun lost => lost.2.1

end Relations

section Updates

variable {w : World}

theorem changes_announced (newState : ConnectionState) (c : Impl) :
    (announced newState c).changes = c.changes ++
      if c.connectionState ≠ newState then heard c [(c.connectionState, newState)] else [] := by
  unfold announced heard
  by_cases other : c.connectionState ≠ newState
  · by_cases wants : c.connectionStateCallback = true
    · rw [if_pos ⟨other, wants⟩, if_pos other, if_pos wants]
      simp [told, Impl.changes, Called.change?]
    · rw [if_neg (fun both => wants both.2), if_pos other, if_neg wants]
      exact (List.append_nil _).symm
  · rw [if_neg (fun both => other both.1), if_neg other]
    exact (List.append_nil _).symm

theorem wants_announced (newState : ConnectionState) (c : Impl) :
    (announced newState c).connectionStateCallback = c.connectionStateCallback := by
  unfold announced
  split
  · rfl
  · rfl

theorem travels_setConnectionState {newState : ConnectionState} {c : Impl}
    (moves : c.connectionState ≠ newState → Moves c.connectionState newState) :
    Travels c (finalState (setConnectionState w newState) c) := by
  rw [finalState_setConnectionState]
  refine ⟨wants_announced newState c, ?_⟩
  by_cases other : c.connectionState ≠ newState
  · refine ⟨[(c.connectionState, newState)], ?_, ?_⟩
    · rw [announced_connectionState]
      exact .single (moves other)
    · rw [changes_announced, if_pos other]
  · refine ⟨[], ?_, ?_⟩
    · rw [announced_connectionState, ← not_ne_iff.mp other]
      exact .nil _
    · rw [changes_announced, if_neg other]
      unfold heard
      simp

theorem travels_fails : Within Travels (setConnectionState w .failed) :=
  fun _ => travels_setConnectionState .fails

theorem loses_setConnectionState : Within Loses (setConnectionState w .disconnected) := by
  intro c
  rw [finalState_setConnectionState]
  refine ⟨wants_announced _ c, ?_⟩
  rw [announced_connectionState, changes_announced]
  by_cases other : c.connectionState ≠ .disconnected
  · rw [if_pos other]
    exact .inr ⟨other, rfl, rfl⟩
  · rw [if_neg other, List.append_nil]
    exact .inl ⟨(not_ne_iff.mp other).symm, rfl⟩

end Updates

section Programs

variable {w : World} {α : Type}

theorem loses_modify {f : Impl → Impl} (state : ∀ c, (f c).connectionState = c.connectionState)
    (same : ∀ c, announcements (f c) = announcements c) : Within Loses (modify f : ClientM Unit) :=
  within_modify fun c => loses_of_same (state c) (same c)

theorem loses_callErrorCallback (text : StdString) : Within Loses (callErrorCallback w text) := by
  intro c
  have run := callErrorCallback_run (w := w) text c
  by_cases installed : c.errorCallback = true
  · rw [if_pos installed] at run
    have heard : announcements (told (.error text) c) = announcements c := by
      simp [announcements, Impl.changes, told, Called.change?]
    rw [finalState_congr run, show finalState (callUser w (.error text)) c = told (.error text) c from ?_]
    · exact loses_of_same rfl heard
    · have called := callUser_run (w := w) (.error text) c
      cases answered : w.callback c.sessionManager.looks with
      | ok _ =>
          rw [answered] at called
          exact finalState_of_ok called
      | error what =>
          rw [answered] at called
          exact finalState_of_error called
  · rw [if_neg installed] at run
    rw [finalState_of_ok run]
    exact refl_of Loses c

theorem loses_scheduleAutoReconnect (reason : StdString) :
    Within Loses (scheduleAutoReconnect reason) := by
  unfold scheduleAutoReconnect
  refine within_bind (loses_modify (fun _ => rfl) fun _ => rfl) fun _ => within_bind within_get fun c => ?_
  refine within_ite (within_pure _) (within_ite (within_pure _) ?_)
  exact loses_modify (fun _ => rfl) fun _ => rfl

theorem loses_notifyConnectionLoss (reason : StdString) (allowAutoReconnect : Bool) :
    Within Loses (notifyConnectionLoss w reason allowAutoReconnect) := by
  unfold notifyConnectionLoss
  refine within_bind within_get fun c => within_ite (within_pure _) (within_ite (within_pure _) ?_)
  refine within_bind (loses_modify (fun _ => rfl) fun _ => rfl) fun _ => ?_
  refine within_bind loses_setConnectionState fun _ => ?_
  refine within_bind (loses_callErrorCallback reason) fun _ => within_bind within_get fun c => ?_
  exact within_ite (loses_scheduleAutoReconnect reason) (within_pure _)

theorem loses_onSessionEvent (event : ParseResult) : Within Loses (onSessionEvent w event) := by
  unfold onSessionEvent
  refine within_ite (loses_modify (fun _ => rfl) fun _ => rfl) ?_
  refine within_ite (loses_notifyConnectionLoss _ _) ?_
  refine within_ite (loses_notifyConnectionLoss _ _) ?_
  exact within_ite (loses_notifyConnectionLoss _ _) (within_pure _)

theorem loses_onSessionConnectionStateChanged (connected : Bool) :
    Within Loses (onSessionConnectionStateChanged w connected) := by
  unfold onSessionConnectionStateChanged
  refine within_bind (loses_modify (fun _ => rfl) fun _ => rfl) fun _ => ?_
  refine within_ite ?_ (loses_notifyConnectionLoss _ _)
  exact loses_modify (fun _ => rfl) fun _ => rfl

theorem loses_onNotice (notice : Notice) : Within Loses (onNotice w notice) := by
  cases notice with
  | connectionState connected => exact loses_onSessionConnectionStateChanged connected
  | sessionEvent result => exact loses_onSessionEvent result

theorem loses_onEventNotice (notice : Notice) : Within Loses (onEventNotice w notice) := by
  cases notice with
  | connectionState connected => exact loses_onSessionConnectionStateChanged connected
  | sessionEvent result =>
      exact within_catchException (loses_onSessionEvent result) fun _ => within_pure _

theorem loses_runSession (x : SessionM α) : Within Loses (runSession x) := by
  intro c
  cases run : x.run c.sessionManager with
  | ok a m =>
      rw [finalState_of_ok (runSession_of_ok run)]
      exact loses_of_same rfl rfl
  | error what m =>
      rw [finalState_of_error (runSession_of_error run)]
      exact loses_of_same rfl rfl

theorem loses_takeNotices : Within Loses takeNotices := by
  unfold takeNotices
  refine within_bind within_get fun c => within_bind ?_ fun _ => within_pure _
  exact loses_modify (fun _ => rfl) fun _ => rfl

theorem loses_callSession (x : SessionM α) : Within Loses (callSession w x) := by
  unfold callSession
  refine within_bind (loses_runSession x) fun a => within_bind loses_takeNotices fun notices => ?_
  refine within_bind (within_forM fun notice _ => ?_) fun _ => within_pure _
  exact within_catchException (loses_onNotice notice) fun _ => within_pure _

theorem loses_stopPolling (caller : Caller) : Within Loses (stopPolling caller) :=
  loses_modify (fun _ => rfl) fun _ => rfl

theorem loses_startPolling : Within Loses startPolling := by
  unfold startPolling
  refine within_bind within_get fun c => within_ite (within_pure _) ?_
  refine within_bind within_get fun c => within_ite ?_ (loses_modify (fun _ => rfl) fun _ => rfl)
  exact within_bind (loses_modify (fun _ => rfl) fun _ => rfl) fun _ => within_throw _

theorem loses_handleAeronError (message : StdString) : Within Loses (handleAeronError w message) := by
  unfold handleAeronError
  refine within_bind (loses_modify (fun _ => rfl) fun _ => rfl) fun _ => within_bind within_get fun c => ?_
  refine within_ite (within_pure _) ?_
  refine within_bind (loses_modify (fun _ => rfl) fun _ => rfl) fun _ => within_bind within_get fun c => ?_
  refine within_bind ?_ fun _ => loses_notifyConnectionLoss _ _
  refine within_catchException ?_ fun _ => within_pure _
  exact within_bind (loses_stopPolling _) fun _ => loses_callSession _

/-- Whatever happens to a client between the updates of a connect or disconnect call, the state is
lost at most. -/
theorem basis_loses : Basis w (Within Loses) where
  toClosed := closed_within
  aside := fun idle => loses_modify (fun c => (idle c).connectionState) fun c => (idle c).announcements
  notifyConnectionLoss := loses_notifyConnectionLoss
  handleSessionEvent := by
    intro result
    unfold handleSessionEvent
    refine within_bind within_get fun c => within_bind (loses_runSession _) fun _ => ?_
    refine within_bind loses_takeNotices fun notices => ?_
    exact within_forM fun notice _ => loses_onEventNotice notice
  handleAeronError := loses_handleAeronError
  event := fun _ => loses_callSession _
  connect := fun _ => loses_callSession _
  publishMessage := fun _ _ _ _ _ _ => loses_callSession _
  sendCommitOffset := fun _ _ _ _ _ _ _ _ => loses_callSession _

theorem travels_of_within {x : ClientM α} (loses : Within Loses x) : Within Travels x :=
  loses.mono fun _ _ => travels_of_loses

theorem basis_travels : Basis w (Within Travels) where
  toClosed := closed_within
  aside := fun idle => within_modify fun c =>
    travels_of_same (idle c).connectionState (idle c).announcements
  notifyConnectionLoss := fun _ _ => travels_of_within (loses_notifyConnectionLoss _ _)
  handleSessionEvent := fun result => travels_of_within (basis_loses.handleSessionEvent result)
  handleAeronError := fun message => travels_of_within (loses_handleAeronError message)
  event := fun _ => travels_of_within (loses_callSession _)
  connect := fun _ => travels_of_within (loses_callSession _)
  publishMessage := fun _ _ _ _ _ _ => travels_of_within (loses_callSession _)
  sendCommitOffset := fun _ _ _ _ _ _ _ _ => travels_of_within (loses_callSession _)

end Programs

section Connecting

variable {w : World}

theorem loses_attempt : Within Loses (attempt w) := by
  have basis : Basis w (Within Loses) := basis_loses
  unfold attempt approach
  refine within_bind ?_ fun opened => ?_
  · refine within_bind (loses_modify (fun _ => rfl) fun _ => rfl) fun _ => ?_
    refine within_bind (has_initializeAeron basis.toCore) fun ready => within_ite (within_pure _) ?_
    exact within_bind loses_startPolling fun _ => has_openSession basis.toCore basis.pause
  · cases opened with
    | none => exact within_pure _
    | some result =>
        exact within_bind (has_enterSession basis.toCore basis.pause result) fun _ => within_pure _

theorem travels_settle {connected : Bool} {c : Impl}
    (open_ : c.connectionState = .connecting ∨ c.connectionState = .disconnected) :
    Travels c (finalState (settle w connected) c) := by
  have last : Travels c (finalState (setConnectionState w (if connected then .connected else .failed)) c) := by
    cases connected with
    | true => exact travels_setConnectionState fun _ => .succeeds open_
    | false => exact travels_fails c
  unfold settle
  refine trans_of Travels last (after_bind (fun _ => ?_) c)
  exact within_pure _

theorem travels_connect : Within Travels (connect w) := by
  intro c
  by_cases connected : c.connectionState = .connected
  · rw [finalState_of_ok (connect_of_connected connected)]
    exact refl_of Travels c
  · rw [finalState_congr (connect_of_unconnected connected)]
    have begins : Travels c (announced .connecting c) := by
      have move : Travels c (finalState (setConnectionState w .connecting) c) :=
        travels_setConnectionState fun other => .begins other connected
      rwa [finalState_setConnectionState] at move
    have failing : Within Travels (settle w false) :=
      within_bind travels_fails fun _ => within_pure _
    have steps : Within (fun s t => s.connectionState = .connecting → Travels s t)
        (attempt w >>= settle w) := by
      refine within_bind_comp (Q := Loses)
        (S := fun t u => t.connectionState = .connecting ∨ t.connectionState = .disconnected →
          Travels t u)
        loses_attempt (fun _ _ => travels_settle) (fun _ _ loses _ => travels_of_loses loses) ?_
      intro s t u loses settles connecting
      refine trans_of Travels (travels_of_loses loses) (settles ?_)
      exact loses.connectionState.imp (fun same => same.trans connecting) id
    have tries : Within (fun s t => s.connectionState = .connecting → Travels s t)
        (catchException (attempt w >>= settle w) fun _ => settle w false) :=
      within_catchException_comp steps (fun _ => failing) (fun _ _ h => h)
        fun _ _ _ first rest connecting => trans_of Travels (first connecting) rest
    refine bind_from (fun raised begun run => ?_) fun _ begun run => ?_
    · have stored := finalState_setConnectionState (w := w) .connecting c
      rw [finalState_of_error run] at stored
      rwa [stored]
    · have stored := finalState_setConnectionState (w := w) .connecting c
      rw [finalState_of_ok run] at stored
      rw [stored]
      exact trans_of Travels begins (tries _ (announced_connectionState _ c))

theorem travels_suppressingNotifications {body : ClientM Unit} (travels : Within Travels body) :
    Within Travels (suppressingNotifications body) := by
  unfold suppressingNotifications
  refine within_bind (within_modify fun _ => travels_of_same rfl rfl) fun _ => ?_
  refine within_bind (within_tryCatch travels fun raised => ?_) fun _ =>
    within_modify fun _ => travels_of_same rfl rfl
  exact within_bind (within_modify fun _ => travels_of_same rfl rfl) fun _ => within_throw _

theorem travels_closeSession : Within Travels (closeSession w) := by
  unfold closeSession
  exact within_bind within_get fun c => travels_of_within (loses_callSession _)

theorem travels_disconnect (caller : Caller) : Within Travels (disconnect w caller) := by
  unfold disconnect
  refine within_bind within_get fun c => travels_suppressingNotifications ?_
  refine within_bind travels_closeSession fun _ => within_ite ?_ (within_pure _)
  refine within_bind (travels_of_within (loses_stopPolling _)) fun _ => ?_
  refine within_bind (travels_of_within loses_setConnectionState) fun _ => ?_
  exact within_bind (within_modify fun _ => travels_of_same rfl rfl) fun _ =>
    within_modify fun _ => travels_of_same rfl rfl

theorem travels_autoReconnectBegin : Within Travels autoReconnectBegin := by
  unfold autoReconnectBegin
  refine within_bind within_get fun c => ?_
  split
  · exact within_bind (within_modify fun _ => travels_of_same rfl rfl) fun _ =>
      travels_of_within (loses_stopPolling _)
  · exact within_pure _

theorem travels_autoReconnectAttempt : Within Travels (autoReconnectAttempt w) := by
  unfold autoReconnectAttempt
  refine within_bind within_get fun c => ?_
  split
  · exact within_pure _
  · refine within_ite ?_ ?_
    · unfold autoReconnectGiveUp
      refine within_bind (within_modify fun _ => travels_of_same rfl rfl) fun _ =>
        within_bind within_get fun c => ?_
      exact within_ite (travels_of_within (loses_callErrorCallback _)) (within_pure _)
    · unfold reconnectOnce
      refine within_bind (travels_suppressingNotifications ?_) fun _ => ?_
      · exact within_catchException travels_closeSession fun _ => within_pure _
      · refine within_bind (within_modify fun _ => travels_of_same rfl rfl) fun _ => ?_
        refine within_bind travels_connect fun won => ?_
        refine within_ite (within_modify fun _ => travels_of_same rfl rfl) ?_
        exact within_bind (travels_of_within (loses_stopPolling _)) fun _ =>
          within_modify fun _ => travels_of_same rfl rfl

end Connecting

section Runs

theorem travels_take {step : Step}
    (other : ∀ present, step.operation ≠ .setConnectionStateCallback present) (c : Impl) :
    Travels c (take step c) := by
  have acts (act : Acts.Act) : Within Travels (Acts.perform step.world act) :=
    has_act basis_travels act travels_connect travels_disconnect
      (travels_of_within loses_startPolling) (fun _ => travels_of_within (loses_stopPolling _))
      (fun _ => travels_autoReconnectBegin) fun _ => travels_autoReconnectAttempt
  exact has_operation basis_travels step.operation (fun _ => travels_of_within (loses_callSession _))
    (fun act _ => acts act) (fun present same => absurd same (other present)) c

theorem take_wants (w : World) (present : Bool) (c : Impl) :
    take ⟨w, .setConnectionStateCallback present⟩ c = { c with connectionStateCallback := present } := rfl

theorem not_reconnecting_of_path {s t : ConnectionState}
    {way : List (ConnectionState × ConnectionState)} (path : Path Moves s way t)
    (usual : s ≠ .reconnecting) : t ≠ .reconnecting := by
  induction path with
  | nil s => exact usual
  | cons move _ ih =>
      apply ih
      cases move with
      | begins _ _ => decide
      | succeeds _ => decide
      | fails _ => decide
      | loses _ => decide

theorem never_reconnecting (config : ClusterClientConfig) (generated : StdString)
    (steps : List Step) : (reached config generated steps).connectionState ≠ .reconnecting := by
  let usual (c : Impl) : Prop := c.connectionState ≠ .reconnecting
  have fresh : usual (Impl.construct config generated) := by
    change ConnectionState.disconnected ≠ .reconnecting
    decide
  refine invariant_of_steps usual fresh fun c step usual => ?_
  by_cases wants : ∃ present, step.operation = .setConnectionStateCallback present
  · obtain ⟨w, operation⟩ := step
    obtain ⟨present, rfl⟩ := wants
    exact usual
  · obtain ⟨way, path, -⟩ := (travels_take (fun present same => wants ⟨present, same⟩) c).path
    exact not_reconnecting_of_path path usual

theorem travels_stateAfter {steps : List Step}
    (stays : ∀ step ∈ steps, step.operation ≠ .setConnectionStateCallback false) {c : Impl}
    (wants : c.connectionStateCallback = true) : Travels c (stateAfter take c steps) := by
  induction steps generalizing c with
  | nil => exact refl_of Travels c
  | cons step steps ih =>
      have here : Travels c (take step c) := by
        by_cases again : ∃ present, step.operation = .setConnectionStateCallback present
        · obtain ⟨w, operation⟩ := step
          obtain ⟨present, rfl⟩ := again
          have present : present = true := by
            have kept := stays _ List.mem_cons_self
            simpa using kept
          rw [take_wants, present, ← wants]
          exact refl_of Travels c
        · exact travels_take (fun present same => again ⟨present, same⟩) c
      have later := ih (fun step among => stays step (List.mem_cons_of_mem _ among))
        (here.wants.trans wants)
      exact trans_of Travels here later

/-- From the moment at which a user sets the state callback, and until it is taken away, in every run
of a client: the changes that it is told of are a path, along the moves above, from the state of that
moment to the state that the client is in. No run reaches `reconnecting`. -/
theorem reports_are_a_path (config : ClusterClientConfig) (generated : StdString)
    (first rest : List Step) (w : World)
    (stays : ∀ step ∈ rest, step.operation ≠ .setConnectionStateCallback false) :
    let c := reached config generated (first ++ [⟨w, .setConnectionStateCallback true⟩])
    let after := reached config generated (first ++ ⟨w, .setConnectionStateCallback true⟩ :: rest)
    (∃ way, Path Moves c.connectionState way after.connectionState ∧
        after.changes = c.changes ++ way) ∧
      after.connectionState ≠ .reconnecting := by
  intro c after
  refine ⟨?_, never_reconnecting _ _ _⟩
  have wants : c.connectionStateCallback = true := by
    change (stateAfter take _ (first ++ [_])).connectionStateCallback = true
    rw [stateAfter_append]
    rfl
  have split : after = stateAfter take c rest := by
    change stateAfter take _ (first ++ ⟨w, .setConnectionStateCallback true⟩ :: rest) =
      stateAfter take (stateAfter take _ (first ++ [_])) rest
    rw [← stateAfter_append, List.append_assoc]
    rfl
  obtain ⟨way, path, told⟩ := (travels_stateAfter stays wants).path
  refine ⟨way, ?_, ?_⟩
  · rw [split]
    exact path
  · rw [split, told]
    unfold heard
    rw [if_pos wants]

section Sample

def driverless : World :=
  { json := Json.plainJson, order := lexicographic, connectAeron := .error (ascii "no driver") }

def watched : List Step := [⟨driverless, .act .connect⟩, ⟨driverless, .act .connect⟩]

theorem reports_are_a_path_sample :
    ∃ way, Path Moves .disconnected way .failed ∧
      way = [(.disconnected, .connecting), (.connecting, .failed), (.failed, .connecting),
        (.connecting, .failed)] := by
  have stays : ∀ step ∈ watched, step.operation ≠ .setConnectionStateCallback false := by
    intro step among
    simp only [watched, List.mem_cons, List.not_mem_nil, or_false] at among
    rcases among with rfl | rfl <;> simp
  obtain ⟨way, path, told⟩ := (reports_are_a_path {} (ascii "i_1") [] watched driverless stays).1
  refine ⟨way, ?_, ?_⟩
  · have last : (reached {} (ascii "i_1") ([] ++ ⟨driverless, .setConnectionStateCallback true⟩ ::
        watched)).connectionState = .failed := by decide +kernel
    rwa [last] at path
  · exact (List.nil_append way).symm.trans (told.symm.trans (by decide +kernel))

end Sample

end Runs

end AeronClusterClient.Client.StateReports
