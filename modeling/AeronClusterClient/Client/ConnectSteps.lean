/- module: AeronClusterClient/Client/ConnectSteps
   source: src/cluster_client.cpp (connect)
   digest: A connect call, taken apart at the points at which it succeeds or fails. -/

import AeronClusterClient.Client.Programs

set_option autoImplicit false
set_option relaxedAutoImplicit false

namespace AeronClusterClient.Client.ConnectSteps

open Lib.Action Client.State Client.Frames Client.Connection
open Session.Connect (SessionConnectionResult)
open Text (StdString)

section Programs

variable (w : World)

/-- The steps of a connect call up to the answer of the session manager. -/
def approach : ClientM (Option SessionConnectionResult) := do
  modify (fun c => { c with stats.connectionAttempts := c.stats.connectionAttempts + 1 })
  if !(← initializeAeron w) then return none
  startPolling
  openSession w

/-- The steps of a connect call after the answer of the session manager. -/
def enter : Option SessionConnectionResult → ClientM Bool
  | none => return false
  | some result => do
      enterSession w result
      return true

/-- All steps but the last update of the state; the result says which one that will be. -/
def attempt : ClientM Bool := approach w >>= enter w

def settle (connected : Bool) : ClientM Bool := do
  setConnectionState w (if connected then .connected else .failed)
  return connected

end Programs

variable {w : World} {c after : Impl}

theorem connectSteps_eq : connectSteps w = attempt w >>= settle w := by
  unfold connectSteps attempt approach settle
  simp only [bind_assoc]
  congr 1
  funext _
  congr 1
  funext ready
  cases ready with
  | false => rfl
  | true =>
      simp only [Bool.not_true, Bool.false_eq_true, if_false, bind_assoc]
      congr 1
      funext _
      congr 1
      funext opened
      cases opened with
      | none => rfl
      | some result => simp only [enter, bind_assoc, pure_bind, if_true]

theorem attempt_of_aeron (connects : w.connectAeron = .ok ()) :
    attempt w = (do
      modify (fun c => { c with stats.connectionAttempts := c.stats.connectionAttempts + 1 })
      modify (fun c => { c with aeron := true })
      startPolling
      openSession w >>= enter w) := by
  unfold attempt approach initializeAeron
  rw [connects]
  simp only [bind_assoc, pure_bind, Bool.not_true, Bool.false_eq_true, if_false]

theorem connect_of_connected (connected : c.connectionState = .connected) :
    (connect w).run c = .ok true c := by
  unfold connect
  rw [EStateM.run_bind, EStateM.run_get]
  dsimp only
  rw [if_pos connected]
  rfl

theorem connect_of_unconnected (unconnected : c.connectionState ≠ .connected) :
    (connect w).run c = (do
      setConnectionState w .connecting
      catchException (attempt w >>= settle w) (fun _ => settle w false) : ClientM Bool).run c := by
  rw [← connectSteps_eq]
  unfold connect
  rw [EStateM.run_bind, EStateM.run_get]
  dsimp only
  rw [if_neg unconnected]
  rfl

theorem settle_returns {connected : Bool}
    (returns : ¬ StateCallbackThrows w (if connected then .connected else .failed) c) :
    (settle w connected).run c =
      .ok connected (announced (if connected then .connected else .failed) c) := by
  unfold settle
  rw [EStateM.run_bind, setConnectionState_returns returns]
  rfl

theorem settle_throws {connected : Bool}
    (throws : StateCallbackThrows w (if connected then .connected else .failed) c) :
    ∃ what, (settle w connected).run c =
      .error (.exception what) (announced (if connected then .connected else .failed) c) := by
  obtain ⟨what, thrown⟩ := setConnectionState_throws throws
  refine ⟨what, ?_⟩
  unfold settle
  rw [EStateM.run_bind, thrown]

theorem settle_eq_ok {connected value : Bool} :
    (settle w connected).run c = .ok value after ↔
      value = connected ∧
        (setConnectionState w (if connected then .connected else .failed)).run c = .ok () after := by
  unfold settle
  rw [bind_eq_ok]
  constructor
  · rintro ⟨_, _, stored, ⟨⟩⟩
    exact ⟨rfl, stored⟩
  · rintro ⟨rfl, stored⟩
    exact ⟨(), after, stored, rfl⟩

theorem mute_approach : Within Mute (approach w) := by
  unfold approach
  refine within_bind (mute_of_quiet (quiet_of_disturbs (disturbs_modify fun _ => rfl))) fun _ => ?_
  refine within_bind (mute_of_quiet (quiet_of_disturbs disturbs_initializeAeron)) fun ready => ?_
  refine within_ite (within_pure _) (within_bind mute_startPolling fun _ => ?_)
  exact mute_of_quiet quiet_openSession

theorem mute_attempt : Within Mute (attempt w) := by
  unfold attempt
  refine within_bind mute_approach fun opened => ?_
  cases opened with
  | none => exact within_pure _
  | some result => exact within_bind (mute_enterSession result) fun _ => within_pure _

/-- Whatever the last update of the state leaves as it is, a connect call leaves as its other steps
have left it. -/
theorem settled_attempt {R : Impl → Impl → Prop} [IsPreorder Impl R]
    (settles : ∀ newState, Within R (setConnectionState w newState)) (begun : Impl) :
    R (finalState (attempt w) begun)
      (finalState (catchException (attempt w >>= settle w) (fun _ => settle w false)) begun) := by
  have last (connected : Bool) : Within R (settle w connected) :=
    within_bind (settles _) fun _ => within_pure _
  exact trans_of R (after_bind last begun) (after_catchException (fun _ => last false) begun)

/-- A connect call of a client that is not connected succeeds exactly if all its steps do. -/
theorem connect_eq_true (unconnected : c.connectionState ≠ .connected) :
    (connect w).run c = .ok true after ↔
      ∃ begun arrived, (setConnectionState w .connecting).run c = .ok () begun ∧
        (attempt w).run begun = .ok true arrived ∧
          (setConnectionState w .connected).run arrived = .ok () after := by
  have failing (what : StdString) (d : Impl) : (settle w false).run d ≠ .ok true after := by
    intro returns
    cases (settle_eq_ok.mp returns).1
  rw [connect_of_unconnected unconnected, bind_eq_ok]
  constructor
  · rintro ⟨_, begun, stored, run⟩
    obtain ⟨won, arrived, made, last⟩ := bind_eq_ok.mp (of_catchException_eq_ok failing run)
    obtain ⟨rfl, connects⟩ := settle_eq_ok.mp last
    exact ⟨begun, arrived, stored, made, connects⟩
  · rintro ⟨begun, arrived, stored, made, connects⟩
    refine ⟨(), begun, stored, catchException_of_ok ?_⟩
    exact bind_eq_ok.mpr ⟨true, arrived, made, settle_eq_ok.mpr ⟨rfl, connects⟩⟩

end AeronClusterClient.Client.ConnectSteps
