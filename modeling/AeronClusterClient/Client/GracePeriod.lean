/- module: AeronClusterClient/Client/GracePeriod
   source: src/cluster_client.cpp (polling_worker, connect)
   digest: How long the polling loop leaves a connect call alone that is under way. -/

import AeronClusterClient.Client.StallDetection

/-!
A connect call starts the polling loop before the session handshake, which waits
ten seconds for an unreachable member and ten more for a request without an
answer. The loop gives the client a grace period of fifteen seconds; after it,
a client that is still connecting counts as one that has lost its connection.
-/

set_option autoImplicit false
set_option relaxedAutoImplicit false

namespace AeronClusterClient.Client.GracePeriod

open Client.State Client.StallDetection
open Config (ClusterClientConfig)

variable {config : ClusterClientConfig} {t : Timers} {i : Iteration}

def Connecting (i : Iteration) : Prop := i.client.connectionState = .connecting

def InGracePeriod (t : Timers) (i : Iteration) : Prop := i.now < t.connectionStartTime + seconds 15

/-- No iteration of the run that finds a connect call under way ends the loop or notifies of a
connection loss. -/
def SparesConnects (config : ClusterClientConfig) (start : Timers) (iterations : List Iteration) :
    Prop :=
  ∀ before i rest, iterations = before ++ i :: rest → Connecting i →
    (iterate config (timersAfter config start before) i).1 = .continues

theorem iterate_connecting (connecting : Connecting i) :
    (iterate config t i).1 = .continues ↔ InGracePeriod t i := by
  have stale : (i.client.connectionState == .connected) = false := by
    rw [connecting]
    rfl
  have connects : i.client.connectionState ≠ .disconnected := by
    rw [connecting]
    decide
  have unconnected : i.client.isConnected = false := by simp [Impl.isConnected, stale]
  unfold iterate InGracePeriod
  simp only [stale, Bool.false_and, Bool.false_eq_true, if_false]
  by_cases soon : i.now - t.connectionStartTime < seconds 15
  · have goes_on : (checkAndPoll config t i true).1 = .continues := (checkAndPoll_grace t i).1
    have within_period : i.now < t.connectionStartTime + seconds 15 := by omega
    simp only [soon, decide_true, if_true, if_neg connects]
    exact iff_of_true goes_on within_period
  · have late : ¬ i.now < t.connectionStartTime + seconds 15 := by omega
    simp only [soon, decide_false, Bool.false_eq_true, if_false, unconnected, true_or, if_true]
    exact iff_of_false (fun same => by cases same) late

/-- In every run of the loop, connect calls are left alone exactly when each iteration that finds
one under way falls into the grace period. -/
theorem spares_connects_iff (config : ClusterClientConfig) (start : Timers)
    (iterations : List Iteration) :
    SparesConnects config start iterations ↔
      ∀ before i rest, iterations = before ++ i :: rest → Connecting i →
        InGracePeriod (timersAfter config start before) i := by
  constructor
  · intro spares before i rest split connecting
    exact (iterate_connecting connecting).mp (spares before i rest split connecting)
  · intro soon before i rest split connecting
    exact (iterate_connecting connecting).mpr (soon before i rest split connecting)

section Sample

/-- The client while it waits for its second member, the first being unreachable. -/
def connectingClient : Impl := { config := {}, aeron := true, connectionState := .connecting }

/-- Two iterations of the loop that starts at 100 s, the second after ten seconds for the first
member and six for the second. -/
def slowHandshake : List Iteration :=
  [⟨seconds 105, connectingClient, 0⟩, ⟨seconds 116, connectingClient, 0⟩]

/-- The second iteration ends the loop that would have delivered the answer. -/
theorem slow_handshake_aborted :
    ¬ ∀ (config : ClusterClientConfig) (start : Timers) (iterations : List Iteration),
      SparesConnects config start iterations := by
  intro claim
  have goes_on := claim {} (startedAt (seconds 100)) slowHandshake
    [⟨seconds 105, connectingClient, 0⟩] ⟨seconds 116, connectingClient, 0⟩ [] rfl rfl
  revert goes_on
  decide

end Sample

end AeronClusterClient.Client.GracePeriod
