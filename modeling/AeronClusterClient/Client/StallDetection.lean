/- module: AeronClusterClient/Client/StallDetection
   source: src/cluster_client.cpp (polling_worker, perform_connection_health_check, poll_messages)
   digest: The timers of the polling loop, and whether a stalled delivery is ever noticed. -/

import AeronClusterClient.Client.State
import AeronClusterClient.Lib.Runs

/-!
The loop looks for a stall only when its grace period is over, and it starts the
grace period again whenever it finds the client connected within it. Clock
readings are in nanoseconds.
-/

set_option autoImplicit false
set_option relaxedAutoImplicit false

namespace AeronClusterClient.Client.StallDetection

open Lib.Runs Client.State
open Config (ClusterClientConfig)
open Text (StdString ascii stdToString)

def milliseconds (n : Int) : Int := n * 1000000
def seconds (n : Int) : Int := n * 1000000000

def DEFAULT_POLL_BATCH_SIZE : Nat := 100

def performConnectionHealthCheck (c : Impl) : Bool :=
  c.aeron && c.sessionManager.session.isConnected &&
    match c.egressSubscription with
    | some images => 0 < images
    | none => true

/-- `poll_messages`, by the number of fragments that Aeron delivers to it. -/
def pollMessages (c : Impl) (fragments : Nat) : Nat :=
  match c.egressSubscription with
  | some images => if images = 0 then 0 else min fragments DEFAULT_POLL_BATCH_SIZE
  | none => 0

/-- The local variables of `polling_worker`. -/
structure Timers where
  lastHealthCheck : Int
  lastActivity : Int
  connectionStartTime : Int
  lastStallWarning : Int := 0
  deriving DecidableEq, Repr

/-- How an iteration ends: with the next one, with the end of the loop, or with that and a call
of `notify_connection_loss`. -/
inductive Outcome
  | continues
  | stops
  | notifies (reason : StdString)
  deriving DecidableEq, Repr

/-- What an iteration finds: the clock, the client as it then is, and what the poll delivers. -/
structure Iteration where
  now : Int
  client : Impl
  fragments : Nat

def Iteration.processed (i : Iteration) : Nat := pollMessages i.client i.fragments

section Worker

variable (config : ClusterClientConfig)

/-- The branch of an iteration that has polled nothing after the grace period. -/
def checkStall (t : Timers) (now : Int) : Outcome × Timers :=
  let idleDuration := now - t.lastActivity
  let warningTimeout := milliseconds config.deliveryStallWarningTimeout
  let disconnectTimeout := milliseconds config.deliveryStallDisconnectTimeout
  let warns := 0 < warningTimeout ∧ warningTimeout ≤ idleDuration ∧
    (t.lastStallWarning = 0 ∨ warningTimeout ≤ now - t.lastStallWarning)
  let t := { t with lastStallWarning := if warns then now else t.lastStallWarning }
  if (0 < disconnectTimeout ∧ disconnectTimeout ≤ idleDuration) ∨
      (¬ 0 < disconnectTimeout ∧ seconds 60 ≤ idleDuration) then
    (.notifies (ascii "Delivery stall detected (no cluster traffic for " ++
      stdToString (idleDuration.tdiv 1000000) ++ ascii " ms)"), t)
  else (.continues, t)

/-- The end of an iteration: the health check and the poll. -/
def checkAndPoll (t : Timers) (i : Iteration) (inGracePeriod : Bool) : Outcome × Timers :=
  let due := seconds 10 ≤ i.now - t.lastHealthCheck
  if due ∧ performConnectionHealthCheck i.client = false ∧ inGracePeriod = false then
    (.notifies (ascii "Connection health check failed"), t)
  else
    let t := { t with lastHealthCheck := if due then i.now else t.lastHealthCheck }
    if 0 < i.processed then (.continues, { t with lastActivity := i.now })
    else if inGracePeriod then (.continues, t)
    else checkStall config t i.now

def iterate (t : Timers) (i : Iteration) : Outcome × Timers :=
  let inGracePeriod := decide (i.now - t.connectionStartTime < seconds 15)
  let fresh := i.client.connectionState == .connected && inGracePeriod &&
    i.client.sessionManager.session.isConnected
  let t := if fresh then { t with connectionStartTime := i.now } else t
  if inGracePeriod then
    if i.client.connectionState = .disconnected then (.stops, t)
    else checkAndPoll config t i true
  else if i.client.isConnected = false ∨ i.client.egressSubscription.getD 0 = 0 then
    (.notifies (ascii "Connection lost or no active images"), t)
  else checkAndPoll config t i false

/-- The timers after the iterations, from the three clock readings the loop starts with. -/
def timersAfter (start : Timers) (iterations : List Iteration) : Timers :=
  stateAfter (fun i t => (iterate config t i).2) start iterations

end Worker

section Stalls

/-- The time of the last iteration that processed a message, or else of the start of the loop. -/
def lastProcessed (start : Timers) (before : List Iteration) : Int :=
  ((before.filter (0 < ·.processed)).getLast?.map Iteration.now).getD start.lastActivity

/-- `delivery_stall_disconnect_timeout` if it is positive, and 60 s otherwise. -/
def stallTimeout (config : ClusterClientConfig) : Int :=
  if 0 < config.deliveryStallDisconnectTimeout then
    milliseconds config.deliveryStallDisconnectTimeout
  else seconds 60

/-- The iteration polls nothing, 15 s or more after the start of the loop and the time-out or
more after the last message. -/
def Stalled (config : ClusterClientConfig) (start : Timers) (before : List Iteration)
    (i : Iteration) : Prop :=
  i.processed = 0 ∧ start.lastHealthCheck + seconds 15 ≤ i.now ∧
    lastProcessed start before + stallTimeout config ≤ i.now

/-- In the run, an iteration that finds a stall notifies of a connection loss. -/
def DetectsStalls (config : ClusterClientConfig) (start : Timers) (iterations : List Iteration) :
    Prop :=
  ∀ before i rest, iterations = before ++ i :: rest → Stalled config start before i →
    ∃ reason, (iterate config (timersAfter config start before) i).1 = .notifies reason

/-- The clock does not go back, and successive readings are less than 15 s apart. -/
def Steady (start : Timers) (iterations : List Iteration) : Prop :=
  List.IsChain (fun earlier later => earlier ≤ later ∧ later < earlier + seconds 15)
    (start.lastHealthCheck :: start.lastActivity :: start.connectionStartTime ::
      iterations.map Iteration.now)

def Connected (i : Iteration) : Prop :=
  i.client.connectionState = .connected ∧ i.client.sessionManager.session.isConnected = true

variable {config : ClusterClientConfig} {t start : Timers} {i : Iteration} {iterations : List Iteration}

theorem checkAndPoll_grace (t : Timers) (i : Iteration) :
    (checkAndPoll config t i true).1 = .continues ∧
      (checkAndPoll config t i true).2.connectionStartTime = t.connectionStartTime := by
  unfold checkAndPoll
  dsimp only
  rw [if_neg (fun failed => by cases failed.2.2)]
  split <;> exact ⟨rfl, rfl⟩

theorem iterate_connected (connected : Connected i)
    (soon : i.now < t.connectionStartTime + seconds 15) :
    (iterate config t i).1 = .continues ∧ (iterate config t i).2.connectionStartTime = i.now := by
  obtain ⟨client, session⟩ := connected
  have inGracePeriod : i.now - t.connectionStartTime < seconds 15 := by omega
  unfold iterate
  simp only [inGracePeriod, client, session, decide_true, beq_self_eq_true, Bool.and_self, if_true]
  exact checkAndPoll_grace _ i

/-- While the client stays connected every iteration goes on, and the grace period is never over. -/
theorem iterate_continues {before rest : List Iteration}
    (steady : List.IsChain (fun earlier later => earlier ≤ later ∧ later < earlier + seconds 15)
      (start.connectionStartTime :: (before ++ i :: rest).map Iteration.now))
    (connected : ∀ j ∈ before ++ i :: rest, Connected j) :
    (iterate config (timersAfter config start before) i).1 = .continues := by
  induction before generalizing start with
  | nil =>
      have soon := (List.isChain_cons_cons.mp steady).1.2
      exact (iterate_connected (connected i List.mem_cons_self) soon).1
  | cons first before ih =>
      obtain ⟨gap, later⟩ := List.isChain_cons_cons.mp steady
      have here : _ ∧ (iterate config start first).2.connectionStartTime = first.now :=
        iterate_connected (connected first List.mem_cons_self) gap.2
      refine ih ?_ fun j among => connected j (List.mem_cons_of_mem _ among)
      rwa [here.2]

/-- In every run in which the client stays connected, stalls are noticed exactly if there are none. -/
theorem detects_stalls_iff (steady : Steady start iterations)
    (connected : ∀ i ∈ iterations, Connected i) :
    DetectsStalls config start iterations ↔
      ∀ before i rest, iterations = before ++ i :: rest → ¬ Stalled config start before i := by
  constructor
  · intro detects before i rest split stalled
    obtain ⟨reason, notified⟩ := detects before i rest split stalled
    subst split
    have chain := (List.isChain_cons_cons.mp (List.isChain_cons_cons.mp steady).2).2
    rw [iterate_continues chain connected] at notified
    cases notified
  · exact fun none before i rest split stalled => absurd stalled (none before i rest split)

section Sample

def connectedClient : Impl :=
  { config := {}
    aeron := true
    egressSubscription := some 1
    connectionState := .connected
    sessionManager :=
      { session :=
          { ingressPublication := some { connected := true }
            sessionId := 5
            leadershipTermId := 1
            connected := true } } }

/-- Nothing arrives in three iterations, ten seconds apart. -/
def silence : List Iteration :=
  [⟨seconds 110, connectedClient, 0⟩, ⟨seconds 120, connectedClient, 0⟩,
    ⟨seconds 130, connectedClient, 0⟩]

def startedAt (now : Int) : Timers :=
  { lastHealthCheck := now, lastActivity := now, connectionStartTime := now }

theorem silence_connected : ∀ i ∈ silence, Connected i := by
  intro i among
  simp only [silence, List.mem_cons, List.not_mem_nil, or_false] at among
  rcases among with rfl | rfl | rfl <;> exact ⟨rfl, by decide⟩

theorem detects_stalls_iff_sample :
    DetectsStalls {} (startedAt (seconds 100)) silence ↔ ∀ before i rest,
      silence = before ++ i :: rest → ¬ Stalled {} (startedAt (seconds 100)) before i := by
  have steady : Steady (startedAt (seconds 100)) silence := by
    unfold Steady
    decide
  exact detects_stalls_iff steady silence_connected

/-- After half a minute without traffic the loop still does nothing. -/
theorem silence_not_noticed :
    ¬ ∀ (config : ClusterClientConfig) (start : Timers) (iterations : List Iteration),
      Steady start iterations → (∀ i ∈ iterations, Connected i) →
        DetectsStalls config start iterations := by
  intro claim
  have steady : Steady (startedAt (seconds 100)) silence := by
    unfold Steady
    decide
  obtain ⟨reason, notified⟩ := claim {} _ _ steady silence_connected
    [⟨seconds 110, connectedClient, 0⟩, ⟨seconds 120, connectedClient, 0⟩]
    ⟨seconds 130, connectedClient, 0⟩ [] rfl (by unfold Stalled; decide)
  have goes_on : (iterate {} (timersAfter {} (startedAt (seconds 100))
      [⟨seconds 110, connectedClient, 0⟩, ⟨seconds 120, connectedClient, 0⟩])
        ⟨seconds 130, connectedClient, 0⟩).1 = .continues := by
    decide
  rw [goes_on] at notified
  cases notified

end Sample

end Stalls

end AeronClusterClient.Client.StallDetection
