/- module: AeronClusterClient/Client/FailedConnect
   source: src/cluster_client.cpp (connect, start_polling, on_session_connection_state_changed)
   digest: What a connect call that fails leaves behind. -/

import AeronClusterClient.Client.ConnectSteps
import AeronClusterClient.Client.Undisturbed

/-!
The exits of `connect` store the state `FAILED` and undo nothing. What a call
leaves is clean if Aeron refuses it in a clean state. After `start_polling`, only
the report of a loss or of a driver error stops the loop and resets the
statistics, and other threads make these reports when they like.
-/

set_option autoImplicit false
set_option relaxedAutoImplicit false

namespace AeronClusterClient.Client.FailedConnect

open Lib.Action Client.State Client.Frames Client.Connection Client.Programs Client.ConnectSteps
open Client.Undisturbed
open Text (ascii)

variable {w : World} {c after : Impl}

/-- Nothing is half open: no polling loop, no session, and statistics that show none. -/
structure Clean (c : Impl) : Prop where
  polling : c.polling.active = false
  session : c.sessionManager.session.isConnected = false
  stats : c.stats.isConnected = false
  sessionId : c.stats.currentSessionId = -1

structure SameParts (c after : Impl) : Prop where
  polling : after.polling = c.polling
  session : after.sessionManager.session = c.sessionManager.session
  stats : after.stats = c.stats

instance : IsPreorder Impl SameParts where
  refl _ := ⟨rfl, rfl, rfl⟩
  trans _ _ _ first rest :=
    ⟨rest.polling.trans first.polling, rest.session.trans first.session,
      rest.stats.trans first.stats⟩

theorem SameParts.clean_iff (same : SameParts c after) : Clean after ↔ Clean c := by
  constructor
  · rintro ⟨polling, session, stats, sessionId⟩
    rw [same.polling] at polling
    rw [same.session] at session
    rw [same.stats] at stats sessionId
    exact ⟨polling, session, stats, sessionId⟩
  · rintro ⟨polling, session, stats, sessionId⟩
    rw [← same.polling] at polling
    rw [← same.session] at session
    rw [← same.stats] at stats sessionId
    exact ⟨polling, session, stats, sessionId⟩

theorem sameParts_announced (newState : ConnectionState) (c : Impl) :
    SameParts c (announced newState c) := by
  unfold announced
  split
  · exact ⟨rfl, rfl, rfl⟩
  · exact ⟨rfl, rfl, rfl⟩

theorem sameParts_setConnectionState (newState : ConnectionState) :
    Within SameParts (setConnectionState w newState) := by
  intro c
  rw [finalState_setConnectionState]
  exact sameParts_announced newState c

/-- The state in which a connect call turns to the last update of the state. -/
def givenUp (w : World) (c : Impl) : Impl := finalState (attempt w) (announced .connecting c)

theorem sameParts_givenUp (run : (connect w).run c = .ok false after) :
    SameParts (givenUp w c) after := by
  have unconnected : c.connectionState ≠ .connected := by
    intro connected
    rw [connect_of_connected connected] at run
    cases run
  rw [connect_of_unconnected unconnected] at run
  obtain ⟨_, begun, stored, rest⟩ := bind_eq_ok.mp run
  have begins : begun = announced .connecting c := by
    rw [← finalState_of_ok stored, finalState_setConnectionState]
  have settled := settled_attempt (w := w) sameParts_setConnectionState begun
  rw [finalState_of_ok rest, begins] at settled
  exact settled

def AeronFails (w : World) : Prop := ∃ what, w.connectAeron = .error what

def ShowsNone (c : Impl) : Prop := c.stats.isConnected = false ∧ c.stats.currentSessionId = -1

theorem clean_givenUp_of_aeronFails (fails : AeronFails w) (stopped : c.polling.active = false)
    (closed : c.sessionManager.session.isConnected = false) : Clean (givenUp w c) ↔ ShowsNone c := by
  obtain ⟨what, refused⟩ := fails
  have counted : givenUp w c =
      { announced .connecting c with
        stats.connectionAttempts := (announced .connecting c).stats.connectionAttempts + 1 } := by
    unfold givenUp attempt approach initializeAeron
    rw [refused]
    rfl
  have begun := sameParts_announced .connecting c
  rw [counted]
  constructor
  · rintro ⟨-, -, stats, sessionId⟩
    dsimp only at stats sessionId
    rw [begun.stats] at stats sessionId
    exact ⟨stats, sessionId⟩
  · rintro ⟨stats, sessionId⟩
    refine ⟨?_, ?_, ?_, ?_⟩
    · exact (congrArg Polling.active begun.polling).trans stopped
    · exact (congrArg Session.Manager.SessionState.isConnected begun.session).trans closed
    · dsimp only
      rw [begun.stats]
      exact stats
    · dsimp only
      rw [begun.stats]
      exact sessionId

/-- Starting the polling loop sets its flag, even where it cannot replace the thread. -/
theorem startPolling_active (c : Impl) :
    (finalState startPolling c).polling.active = true ∧
      (finalState startPolling c).sessionManager = c.sessionManager := by
  unfold startPolling
  rw [finalState_bind_of_ok (EStateM.run_get c)]
  by_cases active : c.polling.active = true
  · rw [if_pos active]
    exact ⟨active, rfl⟩
  · rw [if_neg active, finalState_bind_of_ok (EStateM.run_get c)]
    split
    · exact ⟨rfl, rfl⟩
    · exact ⟨rfl, rfl⟩

/-- Unless it is disturbed, a connect call that gets past Aeron gives up with its polling loop still
going on. -/
theorem polls_givenUp (succeeds : ¬ AeronFails w) (undisturbed : ¬ Disturbed w c) :
    Polls (givenUp w c) := by
  have harmless (event : Session.Manager.Event) (happens : Session.Updates.Happens w.session event) :
      ¬ EndsSession event := fun ends => undisturbed (.session event happens ends)
  have core : Core w (Within KeepsPolling) := core_keepsPolling harmless
  have paused : Within KeepsPolling (pause w) := has_pause core fun n event among =>
    keepsPolling_doMeanwhile core fun interrupts => undisturbed (.meanwhile n event among interrupts)
  have rest : Within KeepsPolling (openSession w >>= enter w) := by
    refine within_bind (has_openSession core paused) fun opened => ?_
    cases opened with
    | none => exact within_pure _
    | some result => exact within_bind (has_enterSession core paused result) fun _ => within_pure _
  have connects : w.connectAeron = .ok () := by
    cases answered : w.connectAeron with
    | ok _ => rfl
    | error what => exact absurd ⟨what, answered⟩ succeeds
  have split : givenUp w c = finalState (startPolling >>= fun _ => openSession w >>= enter w)
      { announced .connecting c with
        stats.connectionAttempts := (announced .connecting c).stats.connectionAttempts + 1
        aeron := true } := by
    unfold givenUp
    rw [attempt_of_aeron connects]
    rfl
  have begun := sameParts_announced .connecting c
  have started := startPolling_active
    { announced .connecting c with
      stats.connectionAttempts := (announced .connecting c).stats.connectionAttempts + 1
      aeron := true }
  rw [split]
  refine after_bind (fun _ => rest) _ ⟨started.1, ?_⟩
  rw [started.2]
  intro notice among
  rw [begun.session] at among
  exact fun tells => undisturbed (.pending notice among tells)

/-- A connect call that fails leaves nothing half open if Aeron refuses it while the statistics show
no session, and in no other case unless the call is disturbed. -/
theorem clean_after_failure (stopped : c.polling.active = false)
    (closed : c.sessionManager.session.isConnected = false)
    (run : (connect w).run c = .ok false after) :
    (AeronFails w ∧ ShowsNone c → Clean after) ∧
      (Clean after → (AeronFails w ∧ ShowsNone c) ∨ (¬ AeronFails w ∧ Disturbed w c)) := by
  rw [(sameParts_givenUp run).clean_iff]
  by_cases fails : AeronFails w
  · rw [clean_givenUp_of_aeronFails fails stopped closed]
    exact ⟨And.right, fun unopened => Or.inl ⟨fails, unopened⟩⟩
  · refine ⟨fun refused => absurd refused.1 fails, fun clean => Or.inr ⟨fails, ?_⟩⟩
    by_contra undisturbed
    have goes_on := (polls_givenUp fails undisturbed).polling
    rw [clean.polling] at goes_on
    cases goes_on

section Sample

def unsubscribable : World :=
  { json := Json.plainJson, order := lexicographic, addSubscription := .error (ascii "no stream") }

def newClient : Impl := Impl.construct {} (ascii "i_1")

def failedClient : Impl := finalState (connect unsubscribable) newClient

private theorem newClient_fails : (connect unsubscribable).run newClient = .ok false failedClient :=
  run_of_returned (by decide +kernel)

theorem clean_after_failure_newClient :
    (AeronFails unsubscribable ∧ ShowsNone newClient → Clean failedClient) ∧
      (Clean failedClient → (AeronFails unsubscribable ∧ ShowsNone newClient) ∨
        (¬ AeronFails unsubscribable ∧ Disturbed unsubscribable newClient)) :=
  clean_after_failure rfl (by decide) newClient_fails

/-- The polling loop goes on although the call has failed. -/
theorem failed_connect_polls :
    ¬ ∀ (w : World) (c after : Impl), c.polling.active = false →
      c.sessionManager.session.isConnected = false → (connect w).run c = .ok false after →
        Clean after := by
  intro claim
  have clean := claim unsubscribable newClient failedClient rfl (by decide) newClient_fails
  have stopped := clean.polling
  revert stopped
  decide +kernel

end Sample

end AeronClusterClient.Client.FailedConnect
