/- module: AeronClusterClient/Client/Dormancy
   source: src/cluster_client.cpp (ensure_connected_or_throw, is_connected and the calls that they guard)
   digest: What a client that is not connected leaves undone until it is made to connect. -/

import AeronClusterClient.Client.Operations

/-!
Events reach a client whether or not it is connected: a late event may open the
session, messages are delivered and handled, commits are stored. None of this
makes the client connected, and as long as it is not, every call that sends stops
at its guard.
-/

set_option autoImplicit false
set_option relaxedAutoImplicit false

namespace AeronClusterClient.Client.Dormancy

open Lib.Action Lib.Runs
open Client.State Client.Frames Client.Subscriptions Client.Connection Client.Operations
open Text (StdString ascii)

section Dormant

def tables (c : Impl) :=
  (c.subscriptionMessageIdentifiers, c.subscribedTopics, c.trackedSubscriptions)

/-- A client that is not connected stays so, hands nothing to its session manager and keeps its
subscriptions. -/
def Dormant (c after : Impl) : Prop :=
  c.connectionState ≠ .connected →
    after.connectionState ≠ .connected ∧ after.handed = c.handed ∧ tables after = tables c

instance : IsPreorder Impl Dormant where
  refl _ off := ⟨off, rfl, rfl⟩
  trans _ _ _ first rest off := by
    obtain ⟨still, handed, subscribed⟩ := first off
    obtain ⟨later, handed', subscribed'⟩ := rest still
    exact ⟨later, handed'.trans handed, subscribed'.trans subscribed⟩

theorem tables_of_subscriptions {c after : Impl} (same : after.subscriptions = c.subscriptions) :
    tables after = tables c := by
  simp only [Impl.subscriptions, Subscriptions.mk.injEq] at same
  obtain ⟨-, identifiers, topics, tracked⟩ := same
  unfold tables
  rw [identifiers, topics, tracked]

theorem dormant_of_quiet {c after : Impl} (quiet : Quiet c after) : Dormant c after := fun off =>
  ⟨quiet.unconnected off, quiet.handed off, tables_of_subscriptions quiet.subscriptions⟩

theorem dormant_of_unlessConnected {c after : Impl} (same : UnlessConnected c after) :
    Dormant c after := by
  intro off
  rw [same off]
  exact ⟨off, rfl, rfl⟩

variable {α : Type} {w : World}

theorem dormant_of_disturbs {x : ClientM α} (disturbs : Within Disturbs x) : Within Dormant x :=
  disturbs.mono fun _ _ h => dormant_of_quiet h.quiet

theorem dormant_modify {f : Impl → Impl} (state : ∀ c, (f c).connectionState = c.connectionState)
    (handed : ∀ c, (f c).handed = c.handed) (same : ∀ c, tables (f c) = tables c) :
    Within Dormant (modify f : ClientM Unit) :=
  within_modify fun c off => ⟨by rwa [state c], handed c, same c⟩

end Dormant

section Guards

variable {α : Type} {w : World}

theorem unlessConnected_guarded (f : ClientM α) :
    Within UnlessConnected (do ensureConnectedOrThrow; f) := by
  intro c unconnected
  obtain ⟨what, run⟩ := ensureConnectedOrThrow_unconnected unconnected
  have stopped : (do ensureConnectedOrThrow; f : ClientM α).run c = .error (.exception what) c := by
    rw [EStateM.run_bind, run]
  exact finalState_of_error stopped

theorem unlessConnected_checked (a : α) (f : Impl → ClientM α) :
    Within UnlessConnected (do
      throwIfDriverTerminated
      let c ← get
      if !c.isConnected then return a
      f c) := by
  intro c unconnected
  unfold finalState
  rw [EStateM.run_bind]
  rcases throwIfDriverTerminated_run c with run | ⟨what, run⟩
  · rw [run]
    dsimp only
    rw [EStateM.run_bind, EStateM.run_get]
    dsimp only
    rw [isConnected_of_unconnected unconnected]
    rfl
  · rw [run]

end Guards

section Calls

variable {α : Type} {w : World}

theorem dormant_guarded (f : ClientM α) : Within Dormant (do ensureConnectedOrThrow; f) :=
  (unlessConnected_guarded f).mono fun _ _ => dormant_of_unlessConnected

theorem dormant_sendCommitRequest (topic : StdString) :
    Within Dormant (sendCommitRequest w topic) :=
  (unlessConnected_checked false _).mono fun _ _ => dormant_of_unlessConnected

theorem dormant_resumeFromLastCommit (topic messageIdentifier : StdString) :
    Within Dormant (resumeFromLastCommit w topic messageIdentifier) :=
  (unlessConnected_checked false _).mono fun _ _ => dormant_of_unlessConnected

theorem dormant_sendCommitOffset (offset : Commit.Manager.CommitOffset) :
    Within Dormant (sendCommitOffset w offset) :=
  (unlessConnected_sendCommitOffset offset).mono fun _ _ => dormant_of_unlessConnected

theorem dormant_disconnect (caller : Caller) : Within Dormant (disconnect w caller) := by
  have flag (suppress : Bool) : Within Dormant
      (modify fun c => { c with suppressDisconnectNotifications := suppress } : ClientM Unit) :=
    dormant_modify (fun _ => rfl) (fun _ => rfl) fun _ => rfl
  have body (wasConnected : Bool) : Within Dormant (do
      closeSession w
      if wasConnected then
        stopPolling caller
        setConnectionState w .disconnected
        releaseAeron
        modify fun c =>
          { c with
            stats.currentSessionId := -1
            stats.currentLeaderId := -1
            stats.isConnected := false }) := by
    unfold closeSession releaseAeron
    refine within_bind ?_ fun _ => within_ite ?_ (within_pure _)
    · exact within_bind within_get fun c => dormant_of_disturbs (disturbs_callSession _)
    · refine within_bind (dormant_of_disturbs (disturbs_stopPolling _)) fun _ => ?_
      refine within_bind (dormant_of_disturbs (disturbs_setConnectionState (by decide))) fun _ => ?_
      exact within_bind (dormant_modify (fun _ => rfl) (fun _ => rfl) fun _ => rfl) fun _ =>
        dormant_modify (fun _ => rfl) (fun _ => rfl) fun _ => rfl
  unfold disconnect suppressingNotifications
  refine within_bind within_get fun c => within_bind (flag true) fun _ => ?_
  refine within_bind (within_tryCatch ?_ fun raised => ?_) fun _ => flag false
  · simpa using body (decide (c.connectionState = .connected))
  · exact within_bind (flag false) fun _ => within_throw _

theorem dormant_startPolling : Within Dormant startPolling := by
  unfold startPolling
  refine within_bind within_get fun c => within_ite (within_pure _) ?_
  refine within_bind within_get fun c => within_ite ?_ ?_
  · exact within_bind (dormant_modify (fun _ => rfl) (fun _ => rfl) fun _ => rfl) fun _ =>
      within_throw _
  · exact dormant_modify (fun _ => rfl) (fun _ => rfl) fun _ => rfl

theorem dormant_autoReconnectBegin : Within Dormant autoReconnectBegin := by
  unfold autoReconnectBegin
  refine within_bind within_get fun c => ?_
  split
  · refine within_bind (dormant_modify (fun _ => rfl) (fun _ => rfl) fun _ => rfl) fun _ => ?_
    exact dormant_of_disturbs (disturbs_stopPolling _)
  · exact within_pure _

end Calls

section Runs

def connects : Operation → Bool
  | .act .connect | .act .reconnect | .act .autoReconnectAttempt => true
  | _ => false

theorem dormant_act (w : World) {act : Acts.Act} (other : connects (.act act) = false) :
    Within Dormant (Acts.perform w act) := by
  cases act with
  | connect | reconnect | autoReconnectAttempt => cases other
  | disconnect caller => exact dormant_disconnect caller
  | startPolling => exact dormant_startPolling
  | stopPolling caller => exact dormant_of_disturbs (disturbs_stopPolling caller)
  | setAutoReconnect enabled => exact dormant_modify (fun _ => rfl) (fun _ => rfl) fun _ => rfl
  | autoReconnectBegin => exact dormant_autoReconnectBegin
  | event event => exact (quiet_doMeanwhile event).mono fun _ _ => dormant_of_quiet
  | subscribe topic messageIdentifier resumeStrategy instanceIdentifier =>
      exact within_bind (dormant_guarded _) fun _ => within_pure _
  | unsubscribe topic messageIdentifier =>
      exact within_bind (dormant_guarded _) fun _ => within_pure _
  | commit offset =>
      exact (stores_commitMessage offset).mono fun _ _ stores => dormant_of_quiet stores.toQuiet

theorem dormant_take {step : Step} (other : connects step.operation = false) (c : Impl) :
    Dormant c (take step c) := by
  obtain ⟨w, operation⟩ := step
  have dropped {α : Type} {x : ClientM α} (dormant : Within Dormant x) :
      Dormant c (finalState (do let _ ← x) c) :=
    within_bind dormant (fun _ => within_pure _) c
  cases operation with
  | act act => exact dormant_act w other c
  | setMessageCallback present => exact fun off => ⟨off, rfl, rfl⟩
  | setConnectionStateCallback present => exact fun off => ⟨off, rfl, rfl⟩
  | setErrorCallback present => exact fun off => ⟨off, rfl, rfl⟩
  | setInstanceIdentifier instanceId => exact fun off => ⟨off, rfl, rfl⟩
  | publishOrder order => exact dropped (dormant_guarded _)
  | publishOrderToTopic order topic => exact dropped (dormant_guarded _)
  | publishMessage messageType payload headers => exact dropped (dormant_guarded _)
  | publishMessageToTopic messageType payload headers topic => exact dropped (dormant_guarded _)
  | sendCommitRequest topic => exact dropped (dormant_sendCommitRequest topic)
  | sendCommitOffset offset => exact dropped (dormant_sendCommitOffset offset)
  | resumeFromLastCommit topic messageIdentifier =>
      exact dropped (dormant_resumeFromLastCommit topic messageIdentifier)
  | keepalive => exact dropped (dormant_of_disturbs (disturbs_callSession _))

/-- Until it is made to connect, a client that is not connected hands nothing to its session manager,
whatever it is asked to send, whatever is delivered to it and whatever becomes of its session; and it
does not become connected by any of this. -/
theorem dormant_until_connect {c : Impl} (off : c.connectionState ≠ .connected) (steps : List Step)
    (without : ∀ step ∈ steps, connects step.operation = false) :
    (stateAfter take c steps).connectionState ≠ .connected ∧
      (stateAfter take c steps).handed = c.handed ∧ tables (stateAfter take c steps) = tables c := by
  induction steps generalizing c with
  | nil => exact ⟨off, rfl, rfl⟩
  | cons step steps ih =>
      obtain ⟨still, handed, same⟩ := dormant_take (without step List.mem_cons_self) c off
      obtain ⟨later, handed', same'⟩ :=
        ih still fun other among => without other (List.mem_cons_of_mem _ among)
      exact ⟨later, handed'.trans handed, same'.trans same⟩

section Sample

def quietWorld : World := { json := Json.plainJson, order := lexicographic }

/-- A late event opens the session of a client that has never connected; it publishes and asks for
its commits all the same. -/
def lateEvent : List Step :=
  [⟨quietWorld, .act (.event (.session (.session { templateId := 2, schemaId := 111, sessionId := 7 })))⟩,
    ⟨quietWorld, .publishMessage (ascii "ORDER") (ascii "hello") []⟩,
    ⟨quietWorld, .sendCommitRequest (ascii "orders")⟩, ⟨quietWorld, .keepalive⟩]

theorem dormant_until_connect_sample :
    (stateAfter take (Impl.construct {} []) lateEvent).connectionState ≠ .connected ∧
      (stateAfter take (Impl.construct {} []) lateEvent).handed = [] ∧
      tables (stateAfter take (Impl.construct {} []) lateEvent) = tables (Impl.construct {} []) := by
  refine dormant_until_connect (by decide) lateEvent ?_
  intro step among
  simp only [lateEvent, List.mem_cons, List.not_mem_nil, or_false] at among
  rcases among with rfl | rfl | rfl | rfl <;> rfl

end Sample

end Runs

end AeronClusterClient.Client.Dormancy
