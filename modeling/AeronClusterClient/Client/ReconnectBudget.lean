/- module: AeronClusterClient/Client/ReconnectBudget
   source: src/cluster_client.cpp (schedule_auto_reconnect, notify_connection_loss),
   include/aeron_cluster/performance_config.hpp (MAX_RECONNECT_ATTEMPTS)
   digest: Every reconnect that is asked for is tried a bounded number of times, over all runs of a client. -/

import AeronClusterClient.Client.Moves

/-!
Losses are reported from several threads, some of them while a reconnect is
already under way. What the auto-reconnect thread may still try is a budget:
asking for a reconnect can fill it up, an attempt takes one from it, and
nothing else touches it.
-/

set_option autoImplicit false
set_option relaxedAutoImplicit false

namespace AeronClusterClient.Client.ReconnectBudget

open Lib.Action Lib.Runs
open Client.State Client.Frames Client.Connection Client.Programs Client.Operations Client.Moves
open Config (ClusterClientConfig)
open Text (StdString ascii stdToString)

section Budget

/-- How many attempts are left to the threads that have been asked for. -/
def pendingOf (scheduled : Option StdString) (thread : Option (Nat × StdString)) : Nat :=
  (if scheduled.isSome then MAX_RECONNECT_ATTEMPTS else 0) +
    match thread with
    | some (made, _) => MAX_RECONNECT_ATTEMPTS - made
    | none => 0

def pending (c : Impl) : Nat := pendingOf c.autoReconnectScheduled c.autoReconnectThread

/-- The attempts that have ever been granted. -/
def granted (c : Impl) : Nat := MAX_RECONNECT_ATTEMPTS * c.scheduleCalls.length

/-- This many attempts have been paid for out of what was left and what has been granted since. -/
def Spends (spent : Nat) (c after : Impl) : Prop :=
  pending after + spent + granted c ≤ pending c + granted after

/-- Nothing is spent, and the thread goes on from where it was. -/
structure Unspent (c after : Impl) : Prop where
  thread : after.autoReconnectThread = c.autoReconnectThread
  spends : Spends 0 c after

theorem Spends.trans {first rest : Nat} {c mid after : Impl} (spends : Spends first c mid)
    (more : Spends rest mid after) : Spends (first + rest) c after := by
  unfold Spends at *
  omega

instance : IsPreorder Impl Unspent where
  refl _ := ⟨rfl, Nat.le_refl _⟩
  trans _ _ _ first rest :=
    ⟨rest.thread.trans first.thread, first.spends.trans rest.spends⟩

theorem unspent_of_same {c after : Impl} (same : reconnects after = reconnects c) :
    Unspent c after := by
  simp only [reconnects, Prod.mk.injEq] at same
  obtain ⟨scheduled, thread, calls⟩ := same
  refine ⟨thread, ?_⟩
  unfold Spends pending granted
  rw [scheduled, thread, calls]
  omega

/-- Asking for a reconnect grants the attempts of one thread, whether or not one is created. -/
theorem unspent_scheduleAutoReconnect (reason : StdString) :
    Within Unspent (scheduleAutoReconnect reason) := by
  intro c
  have asked : Unspent c { c with scheduleCalls := c.scheduleCalls ++ [reason] } := by
    refine ⟨rfl, ?_⟩
    unfold Spends pending granted
    simp only [List.length_append, List.length_singleton, Nat.mul_add, Nat.mul_one]
    omega
  have created : Unspent c { c with
      scheduleCalls := c.scheduleCalls ++ [reason]
      reconnectInProgress := true
      autoReconnectScheduled := some reason } := by
    refine ⟨rfl, ?_⟩
    unfold Spends pending granted pendingOf
    simp only [List.length_append, List.length_singleton, Nat.mul_add, Nat.mul_one,
      Option.isSome_some, if_true]
    omega
  change Unspent c (finalState (if !c.autoReconnectEnabled then pure ()
    else if c.reconnectInProgress then pure ()
    else modify (fun c => { c with
      reconnectInProgress := true, autoReconnectScheduled := some reason }) : ClientM Unit)
    { c with scheduleCalls := c.scheduleCalls ++ [reason] })
  split
  · exact asked
  · split
    · exact asked
    · exact created

end Budget

section Programs

variable {w : World}

theorem hears_unspent : Hears Unspent where
  kept same := unspent_of_same same.reconnects
  asks reason c _ := unspent_scheduleAutoReconnect reason c

theorem respected_unspent : Respected w Unspent where
  plain same := unspent_of_same same.reconnects
  announces := hears_setConnectionState hears_unspent
  connects _ := hears_callSession hears_unspent _
  disconnects _ := hears_callSession hears_unspent _
  publishes := publishes_of_parts (hears_publishOrThrow hears_unspent _ _ _ _ _ _)
    fun counts => unspent_of_same counts.reconnects
  commits := hears_sendCommitOffset hears_unspent
  requests _ _ := hears_callSession hears_unspent _
  keepalives := hears_callSession hears_unspent _
  pauses := hears_pause hears_unspent

end Programs

section Attempts

variable {w : World}

theorem spends_attempt {c mid : Impl} {made : Nat} {reason : StdString}
    (thread : c.autoReconnectThread = some (made, reason)) (room : made < MAX_RECONNECT_ATTEMPTS)
    (unspent : Unspent c mid) {after : Impl}
    (scheduled : after.autoReconnectScheduled = mid.autoReconnectScheduled)
    (calls : after.scheduleCalls = mid.scheduleCalls)
    (goes : after.autoReconnectThread = none ∨ after.autoReconnectThread = some (made + 1, reason)) :
    Spends 1 c after := by
  have spends := unspent.spends
  have same := unspent.thread.trans thread
  unfold Spends pending granted at *
  rw [scheduled, calls]
  rw [thread, same] at spends
  rw [thread]
  rcases goes with gone | again
  · rw [gone]
    unfold pendingOf at *
    dsimp only at *
    omega
  · rw [again]
    unfold pendingOf at *
    dsimp only at *
    omega

/-- An attempt that comes back has taken one from the budget, and is the last of its thread or
counted by it. -/
theorem ends_reconnectOnce {c : Impl} {made : Nat} {reason : StdString}
    (thread : c.autoReconnectThread = some (made, reason)) (room : made < MAX_RECONNECT_ATTEMPTS) :
    Ends (reconnectOnce w made reason) c
      (fun _ after => Spends 1 c after ∧
        (after.autoReconnectThread = none ∨ after.autoReconnectThread = some (made + 1, reason)))
      (fun _ after => Unspent c after) := by
  have moves : Respected w Unspent := respected_unspent
  have closing : Within Unspent
      (suppressingNotifications (catchException (closeSession w) fun _ => return ())) :=
    moves.suppressingNotifications (within_catchException moves.closeSession fun _ => within_pure _)
  unfold reconnectOnce
  refine ends_bind.mpr ((closing.ends c).mono (fun _ closed toClosed => ?_) fun _ _ thrown => thrown)
  refine ends_bind.mpr ?_
  have release : Unspent closed { closed with egressSubscription := none, aeron := false } :=
    unspent_of_same rfl
  have released := trans_of Unspent toClosed release
  refine ends_bind.mpr ((moves.connect.ends _).mono (fun won mid toMid => ?_) fun _ _ thrown => ?_)
  · have unspent := trans_of Unspent released toMid
    cases won with
    | true => exact ⟨spends_attempt thread room unspent rfl rfl (.inl rfl), .inl rfl⟩
    | false => exact ⟨spends_attempt thread room unspent rfl rfl (.inr rfl), .inr rfl⟩
  · exact trans_of Unspent released thrown

theorem spends_giveUp {c : Impl} {made : Nat} {reason : StdString}
    (thread : c.autoReconnectThread = some (made, reason)) :
    Spends 0 c (finalState (autoReconnectGiveUp w reason) c) ∧
      (finalState (autoReconnectGiveUp w reason) c).autoReconnectThread = none := by
  have gone : Spends 0 c { c with reconnectInProgress := false, autoReconnectThread := none } := by
    unfold Spends pending granted pendingOf
    rw [thread]
    dsimp only
    omega
  have told : Within Unspent (do
      if (← get).autoReconnectEnabled then
        callErrorCallback w (ascii "Auto-reconnect failed after " ++
          stdToString MAX_RECONNECT_ATTEMPTS ++ ascii " attempts. Reason: " ++ reason)) :=
    within_bind within_get fun c =>
      within_ite (hears_callErrorCallback hears_unspent _) (within_pure _)
  have after := told { c with reconnectInProgress := false, autoReconnectThread := none }
  exact ⟨gone.trans after.spends, after.thread⟩

end Attempts

section Runs

/-- The step is an attempt to reconnect that comes back. One that throws ends the process: nothing
catches in the thread that makes it. -/
def attempts (step : Step) (c : Impl) : Nat :=
  match step.operation, c.autoReconnectThread with
  | .act .autoReconnectAttempt, some (made, _) =>
      if c.autoReconnectEnabled ∧ made < MAX_RECONNECT_ATTEMPTS ∧
        (returned (autoReconnectAttempt step.world) c).isSome then 1 else 0
  | _, _ => 0

def attemptsMade : Impl → List Step → Nat
  | _, [] => 0
  | c, step :: steps => attempts step c + attemptsMade (take step c) steps

def Bounded (c : Impl) : Prop :=
  ∀ made reason, c.autoReconnectThread = some (made, reason) → made ≤ MAX_RECONNECT_ATTEMPTS

/-- A step spends what it is counted for, and leaves the count of the thread within its limit. -/
structure Pays (spent : Nat) (c after : Impl) : Prop where
  spends : Spends spent c after
  bounded : Bounded c → Bounded after

theorem pays_of_unspent {c after : Impl} (unspent : Unspent c after) : Pays 0 c after :=
  ⟨unspent.spends, fun bounded made reason thread => bounded made reason (unspent.thread ▸ thread)⟩

theorem pays_autoReconnectBegin (c : Impl) : Pays 0 c (finalState autoReconnectBegin c) := by
  cases idle : c.autoReconnectThread with
  | some running =>
      have unchanged : finalState autoReconnectBegin c = c := by
        unfold autoReconnectBegin finalState
        rw [EStateM.run_bind, EStateM.run_get]
        dsimp only
        rw [idle]
        rfl
      rw [unchanged]
      exact pays_of_unspent (refl_of Unspent c)
  | none =>
      cases scheduled : c.autoReconnectScheduled with
      | none =>
          have unchanged : finalState autoReconnectBegin c = c := by
            unfold autoReconnectBegin finalState
            rw [EStateM.run_bind, EStateM.run_get]
            dsimp only
            rw [idle, scheduled]
            rfl
          rw [unchanged]
          exact pays_of_unspent (refl_of Unspent c)
      | some reason =>
          have begun : finalState autoReconnectBegin c =
              finalState (stopPolling .autoReconnect)
                { c with autoReconnectScheduled := none,
                         autoReconnectThread := some (0, reason) } := by
            unfold autoReconnectBegin finalState
            rw [EStateM.run_bind, EStateM.run_get]
            dsimp only
            rw [idle, scheduled]
            rfl
          rw [begun]
          refine ⟨?_, ?_⟩
          · change pendingOf none (some (0, reason)) + 0 + granted c ≤ pending c + granted c
            unfold pending pendingOf
            rw [idle, scheduled]
            simp
          · rintro - made _ ⟨⟩
            exact Nat.zero_le _

theorem pays_autoReconnectAttempt (w : World) (c : Impl) :
    Pays (attempts ⟨w, .act .autoReconnectAttempt⟩ c) c (finalState (autoReconnectAttempt w) c) := by
  cases thread : c.autoReconnectThread with
  | none =>
      have idle : finalState (autoReconnectAttempt w) c = c := by
        unfold autoReconnectAttempt finalState
        rw [EStateM.run_bind, EStateM.run_get]
        dsimp only
        rw [thread]
        rfl
      have none : attempts ⟨w, .act .autoReconnectAttempt⟩ c = 0 := by
        unfold attempts
        rw [thread]
      rw [idle, none]
      exact pays_of_unspent (refl_of Unspent c)
  | some running =>
      obtain ⟨made, reason⟩ := running
      by_cases tries : c.autoReconnectEnabled = true ∧ made < MAX_RECONNECT_ATTEMPTS
      · have one : (autoReconnectAttempt w).run c = (reconnectOnce w made reason).run c := by
          unfold autoReconnectAttempt
          rw [EStateM.run_bind, EStateM.run_get]
          dsimp only
          rw [thread]
          dsimp only
          rw [if_neg]
          simp [tries.1, tries.2]
        have ends := ends_reconnectOnce (w := w) thread tries.2
        cases run : (reconnectOnce w made reason).run c with
        | ok _ after =>
            obtain ⟨spends, goes⟩ := (ends_of_ok run).mp ends
            have came : attempts ⟨w, .act .autoReconnectAttempt⟩ c = 1 := by
              have back : returned (autoReconnectAttempt w) c = some () :=
                returned_eq_some.mpr ⟨after, one.trans run⟩
              unfold attempts
              rw [thread]
              simp [tries.1, tries.2, back]
            rw [finalState_of_ok (one.trans run), came]
            refine ⟨spends, fun _ counted other here => ?_⟩
            rcases goes with gone | again
            · rw [gone] at here
              cases here
            · rw [again] at here
              cases here
              exact tries.2
        | error raised after =>
            have unspent := (ends_of_error run).mp ends
            have none : attempts ⟨w, .act .autoReconnectAttempt⟩ c = 0 := by
              have lost : returned (autoReconnectAttempt w) c = none := by
                unfold returned
                rw [one, run]
              unfold attempts
              rw [thread]
              simp [lost]
            rw [finalState_of_error (one.trans run), none]
            exact pays_of_unspent unspent
      · have givenUp : (autoReconnectAttempt w).run c = (autoReconnectGiveUp w reason).run c := by
          unfold autoReconnectAttempt
          rw [EStateM.run_bind, EStateM.run_get]
          dsimp only
          rw [thread]
          dsimp only
          rw [if_pos]
          by_contra goes
          simp at goes
          exact tries ⟨goes.1, by omega⟩
        have none : attempts ⟨w, .act .autoReconnectAttempt⟩ c = 0 := by
          unfold attempts
          rw [thread]
          dsimp only
          rw [if_neg]
          exact fun counted => tries ⟨counted.1, counted.2.1⟩
        rw [finalState_congr givenUp, none]
        obtain ⟨spends, gone⟩ := spends_giveUp (w := w) thread
        refine ⟨spends, fun _ counted other here => ?_⟩
        rw [gone] at here
        cases here

theorem unspent_perform (w : World) {operation : Operation}
    (begins : operation ≠ .act .autoReconnectBegin) (attempt : operation ≠ .act .autoReconnectAttempt) :
    Within Unspent (perform w operation) := by
  have performs (other : ¬ Sets operation) : Within Unspent (perform w operation) :=
    respected_unspent.perform other fun event _ => hears_doMeanwhile hears_unspent event
  cases operation with
  | act act =>
      cases act with
      | autoReconnectBegin => exact absurd rfl begins
      | autoReconnectAttempt => exact absurd rfl attempt
      | setAutoReconnect enabled => exact fun _ => unspent_of_same rfl
      | _ => exact performs nofun
  | setMessageCallback present => exact fun _ => unspent_of_same rfl
  | setConnectionStateCallback present => exact fun _ => unspent_of_same rfl
  | setErrorCallback present => exact fun _ => unspent_of_same rfl
  | _ => exact performs nofun

theorem pays_take (step : Step) (c : Impl) : Pays (attempts step c) c (take step c) := by
  obtain ⟨w, operation⟩ := step
  by_cases attempt : operation = .act .autoReconnectAttempt
  · subst attempt
    exact pays_autoReconnectAttempt w c
  · have none : attempts ⟨w, operation⟩ c = 0 := by
      unfold attempts
      split
      · rename_i turn _
        exact absurd turn attempt
      · rfl
    rw [none]
    by_cases begins : operation = .act .autoReconnectBegin
    · subst begins
      exact pays_autoReconnectBegin c
    · exact pays_of_unspent (unspent_perform w begins attempt c)

theorem pays_stateAfter (steps : List Step) (c : Impl) :
    Pays (attemptsMade c steps) c (stateAfter take c steps) := by
  induction steps generalizing c with
  | nil => exact pays_of_unspent (refl_of Unspent c)
  | cons step steps ih =>
      have now := pays_take step c
      have later := ih (take step c)
      exact ⟨now.spends.trans later.spends, later.bounded ∘ now.bounded⟩

/-- In every run of a client, whatever losses are reported and whoever connects meanwhile, the
auto-reconnect threads make at most ten attempts for each time a reconnect has been asked for, and
none of them ever counts more than ten. -/
theorem attempts_within_budget (config : ClusterClientConfig) (generated : StdString)
    (steps : List Step) :
    attemptsMade (Impl.construct config generated) steps ≤
        MAX_RECONNECT_ATTEMPTS * (reached config generated steps).scheduleCalls.length ∧
      Bounded (reached config generated steps) := by
  have pays := pays_stateAfter steps (Impl.construct config generated)
  refine ⟨?_, pays.bounded nofun⟩
  have spends := pays.spends
  unfold Spends at spends
  have start : pending (Impl.construct config generated) = 0 ∧
      granted (Impl.construct config generated) = 0 := ⟨rfl, rfl⟩
  rw [start.1, start.2] at spends
  unfold granted at spends
  unfold reached
  omega

end Runs

end AeronClusterClient.Client.ReconnectBudget
