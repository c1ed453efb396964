/- module: AeronClusterClient/Client/Acts
   source: src/cluster_client.cpp (the calls a client receives)
   digest: The runs of a client: its calls as steps, one at a time. -/

import AeronClusterClient.Client.Connection
import AeronClusterClient.Lib.Runs

set_option autoImplicit false
set_option relaxedAutoImplicit false

namespace AeronClusterClient.Client.Acts

open Lib.Action Lib.Runs Client.State Client.Frames Client.Subscriptions Client.Connection
open Commit.Manager (CommitOffset)
open Text (StdString)

/-- A call into a client, by its user or by one of its threads. -/
inductive Act
  | connect
  | disconnect (caller : Caller)
  | reconnect
  | startPolling
  | stopPolling (caller : Caller)
  | setAutoReconnect (enabled : Bool)
  | autoReconnectBegin
  | autoReconnectAttempt
  /-- A session event, an offer failure, a connection loss, a message or a driver error. -/
  | event (event : Meanwhile)
  | subscribe (topic messageIdentifier resumeStrategy instanceIdentifier : StdString)
  | unsubscribe (topic messageIdentifier : StdString)
  | commit (offset : CommitOffset)

/-- A call with the answers that the world gives during it. -/
structure Step where
  world : World
  act : Act

def perform (w : World) : Act → ClientM Unit
  | .connect => do let _ ← connect w
  | .disconnect caller => disconnect w caller
  | .reconnect => do let _ ← reconnect w
  | .startPolling => startPolling
  | .stopPolling caller => stopPolling caller
  | .setAutoReconnect enabled => modify (fun c => { c with autoReconnectEnabled := enabled })
  | .autoReconnectBegin => autoReconnectBegin
  | .autoReconnectAttempt => autoReconnectAttempt w
  | .event event => doMeanwhile w event
  | .subscribe topic messageIdentifier resumeStrategy instanceIdentifier =>
      do let _ ← sendSubscriptionRequest w topic messageIdentifier resumeStrategy instanceIdentifier
  | .unsubscribe topic messageIdentifier =>
      do let _ ← sendUnsubscriptionRequest w topic messageIdentifier
  | .commit offset => commitMessage w offset

/-- The state after a call, whether it returns or throws. -/
def take (step : Step) (c : Impl) : Impl := finalState (perform step.world step.act) c

def after (c : Impl) (steps : List Step) : Impl := stateAfter take c steps

section Subscriptions

variable {w : World}

def SameSubscriptions (c after : Impl) : Prop := after.subscriptions = c.subscriptions

instance : IsPreorder Impl SameSubscriptions where
  refl _ := rfl
  trans _ _ _ first rest := Eq.trans rest first

theorem same_of_disturbs {α : Type} {x : ClientM α} (disturbs : Within Disturbs x) :
    Within SameSubscriptions x :=
  disturbs.mono fun _ _ h => h.subscriptions

theorem same_connect : Within SameSubscriptions (connect w) := by
  intro c
  by_cases connected : c.connectionState = .connected
  · unfold connect finalState
    rw [EStateM.run_bind, EStateM.run_get]
    dsimp only
    rw [if_pos connected]
    rfl
  · exact (unheard_connect c connected).1

theorem same_suppressingNotifications {body : ClientM Unit} (same : Within SameSubscriptions body) :
    Within SameSubscriptions (suppressingNotifications body) := by
  unfold suppressingNotifications
  refine within_bind (within_modify fun _ => rfl) fun _ => ?_
  refine within_bind (within_tryCatch same fun raised => ?_) fun _ => within_modify fun _ => rfl
  exact within_bind (within_modify fun _ => rfl) fun _ => within_throw _

theorem same_closeSession : Within SameSubscriptions (closeSession w) := by
  unfold closeSession
  exact within_bind within_get fun c => same_of_disturbs (disturbs_callSession _)

theorem same_disconnect (caller : Caller) : Within SameSubscriptions (disconnect w caller) := by
  unfold disconnect
  refine within_bind within_get fun c => same_suppressingNotifications ?_
  refine within_bind same_closeSession fun _ => within_ite ?_ (within_pure _)
  refine within_bind (same_of_disturbs (disturbs_stopPolling _)) fun _ => ?_
  refine within_bind (same_of_disturbs (disturbs_setConnectionState (by decide))) fun _ => ?_
  exact within_bind (within_modify fun _ => rfl) fun _ => within_modify fun _ => rfl

theorem same_autoReconnectBegin : Within SameSubscriptions autoReconnectBegin := by
  unfold autoReconnectBegin
  refine within_bind within_get fun c => ?_
  split
  · exact within_bind (within_modify fun _ => rfl) fun _ => same_of_disturbs (disturbs_stopPolling _)
  · exact within_pure _

theorem same_autoReconnectAttempt : Within SameSubscriptions (autoReconnectAttempt w) := by
  unfold autoReconnectAttempt
  refine within_bind within_get fun c => ?_
  split
  · exact within_pure _
  · refine within_ite ?_ ?_
    · unfold autoReconnectGiveUp
      refine within_bind (within_modify fun _ => rfl) fun _ => within_bind within_get fun c => ?_
      exact within_ite (same_of_disturbs (disturbs_callErrorCallback _)) (within_pure _)
    · unfold reconnectOnce
      refine within_bind (same_suppressingNotifications ?_) fun _ => ?_
      · exact within_catchException same_closeSession fun _ => within_pure _
      · refine within_bind (within_modify fun _ => rfl) fun _ => within_bind same_connect fun won => ?_
        refine within_ite (within_modify fun _ => rfl) ?_
        exact within_bind (same_of_disturbs (disturbs_stopPolling _)) fun _ => within_modify fun _ => rfl

theorem same_perform {act : Act}
    (subscribes : ∀ topic messageIdentifier resumeStrategy instanceIdentifier,
      act ≠ .subscribe topic messageIdentifier resumeStrategy instanceIdentifier)
    (unsubscribes : ∀ topic messageIdentifier, act ≠ .unsubscribe topic messageIdentifier) :
    Within SameSubscriptions (perform w act) := by
  cases act with
  | connect => exact within_bind same_connect fun _ => within_pure _
  | disconnect caller => exact same_disconnect caller
  | reconnect =>
      refine within_bind ?_ fun _ => within_pure _
      exact within_bind (same_disconnect .user) fun _ => same_connect
  | startPolling =>
      change Within SameSubscriptions startPolling
      unfold startPolling
      refine within_bind within_get fun c => within_ite (within_pure _) ?_
      refine within_bind within_get fun c => within_ite ?_ (within_modify fun _ => rfl)
      exact within_bind (within_modify fun _ => rfl) fun _ => within_throw _
  | stopPolling caller => exact same_of_disturbs (disturbs_stopPolling caller)
  | setAutoReconnect enabled => exact within_modify fun _ => rfl
  | autoReconnectBegin => exact same_autoReconnectBegin
  | autoReconnectAttempt => exact same_autoReconnectAttempt
  | event event => exact (quiet_doMeanwhile event).mono fun _ _ h => h.subscriptions
  | subscribe topic messageIdentifier resumeStrategy instanceIdentifier =>
      exact absurd rfl (subscribes topic messageIdentifier resumeStrategy instanceIdentifier)
  | unsubscribe topic messageIdentifier => exact absurd rfl (unsubscribes topic messageIdentifier)
  | commit offset => exact (stores_commitMessage offset).mono fun _ _ h => h.subscriptions

/-- A call leaves the subscriptions as they were, or it is one of the two requests and does to
them what the request does. -/
theorem subscriptions_take (step : Step) (c : Impl) :
    (take step c).subscriptions = c.subscriptions ∨
      (∃ topic messageIdentifier resumeStrategy instanceIdentifier,
        step.act = .subscribe topic messageIdentifier resumeStrategy instanceIdentifier ∧
          (take step c).subscriptions = (subscribed c topic messageIdentifier resumeStrategy
            (effectiveInstanceId c instanceIdentifier)).subscriptions) ∨
      ∃ topic messageIdentifier,
        step.act = .unsubscribe topic messageIdentifier ∧
          (take step c).subscriptions = (unsubscribed c topic messageIdentifier).subscriptions := by
  obtain ⟨w, act⟩ := step
  by_cases subscribes : ∃ topic messageIdentifier resumeStrategy instanceIdentifier,
      act = .subscribe topic messageIdentifier resumeStrategy instanceIdentifier
  · obtain ⟨topic, messageIdentifier, resumeStrategy, instanceIdentifier, rfl⟩ := subscribes
    have sent := within_bind_comp (S := Eq) (f := fun _ => pure ())
      (subscribes_sendSubscriptionRequest (w := w) topic messageIdentifier resumeStrategy
        instanceIdentifier)
      (fun _ _ => rfl) (fun _ _ h => h) (fun _ _ _ first same => same ▸ first) c
    exact sent.imp id fun changed => .inl ⟨_, _, _, _, rfl, changed⟩
  · by_cases unsubscribes : ∃ topic messageIdentifier, act = .unsubscribe topic messageIdentifier
    · obtain ⟨topic, messageIdentifier, rfl⟩ := unsubscribes
      have sent := within_bind_comp (S := Eq) (f := fun _ => pure ())
        (unsubscribes_sendUnsubscriptionRequest (w := w) topic messageIdentifier)
        (fun _ _ => rfl) (fun _ _ h => h) (fun _ _ _ first same => same ▸ first) c
      exact sent.imp id fun changed => .inr ⟨_, _, rfl, changed⟩
    · push Not at subscribes unsubscribes
      exact .inl (same_perform subscribes unsubscribes c)

end Subscriptions

end AeronClusterClient.Client.Acts
