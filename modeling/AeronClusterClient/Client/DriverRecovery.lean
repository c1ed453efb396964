/- module: AeronClusterClient/Client/DriverRecovery
   source: src/cluster_client.cpp (connect, handle_aeron_error, throw_if_driver_terminated,
   clear_driver_error_state, resume_subscribed_topics, send_commit_offset)
   digest: Exactly when a connect call gets past a driver error that has been recorded. -/

import AeronClusterClient.Client.ConnectSteps
import AeronClusterClient.Client.Operations

/-!
`connect` forgets a driver error only after its subscriptions have been
resumed. Until then every send is refused; a SUBSCRIBE request that is refused
is caught where it is made, and a commit offset that is refused ends the call.
-/

set_option autoImplicit false
set_option relaxedAutoImplicit false

namespace AeronClusterClient.Client.DriverRecovery

open Lib.Action Client.State Client.Frames Client.Subscriptions Client.Connection Client.Programs
open Client.ConnectSteps
open Commit.Manager (CommitManager CommitOffset)
open Config (ClusterClientConfig)
open Session.Connect (SessionConnectionResult)
open Text (StdString ascii)

variable {w : World} {c s : Impl}

section Resumption

/-- The record has a commit from which its subscription would go on. -/
def HasCommit (commits : CommitManager) (record : SubscriptionRecord) : Prop :=
  commits.getLastCommit record.topic record.messageIdentifier ≠ none

theorem sendCommitOffset_of_fatal (fatal : s.fatalErrorDetected = true) (offset : CommitOffset) :
    ∃ what, (sendCommitOffset w offset).run s = .error (.exception what) s := by
  obtain ⟨what, refused⟩ := throwIfDriverTerminated_of_fatal fatal
  refine ⟨what, ?_⟩
  unfold sendCommitOffset
  rw [EStateM.run_bind, refused]

theorem sendCommitOffset_of_healthy (healthy : s.fatalErrorDetected = false)
    (unconnected : s.connectionState ≠ .connected) (offset : CommitOffset) :
    (sendCommitOffset w offset).run s = .ok false s := by
  unfold sendCommitOffset
  rw [EStateM.run_bind, throwIfDriverTerminated_of_healthy healthy]
  dsimp only
  rw [EStateM.run_bind, EStateM.run_get]
  dsimp only
  rw [isConnected_of_unconnected unconnected]
  rfl

theorem resumeRecord_returns (unconnected : s.connectionState ≠ .connected)
    {record : SubscriptionRecord}
    (spared : s.fatalErrorDetected = false ∨ ¬ HasCommit s.commitManager record) :
    (resumeRecord w record).run s = .ok () s := by
  unfold resumeRecord
  rw [EStateM.run_bind, EStateM.run_get]
  dsimp only
  cases last : s.commitManager.getLastCommit record.topic record.messageIdentifier with
  | some lastCommit =>
      have present : HasCommit s.commitManager record := by
        unfold HasCommit
        rw [last]
        exact Option.some_ne_none lastCommit
      have healthy : s.fatalErrorDetected = false :=
        spared.resolve_right fun absent => absent present
      dsimp only
      rw [EStateM.run_bind, sendCommitOffset_of_healthy healthy unconnected]
      rfl
  | none =>
      obtain ⟨what, refused⟩ := sendSubscriptionRequest_unconnected (w := w) record.topic
        record.messageIdentifier record.resumeStrategy record.instanceIdentifier unconnected
      dsimp only
      have thrown : (do
          let _ ← sendSubscriptionRequest w record.topic record.messageIdentifier
            record.resumeStrategy record.instanceIdentifier : ClientM Unit).run s =
          .error (.exception what) s := by
        rw [EStateM.run_bind, refused]
      exact catchException_of_exception thrown

theorem resumeRecord_throws (fatal : s.fatalErrorDetected = true) {record : SubscriptionRecord}
    (present : HasCommit s.commitManager record) :
    ∃ what, (resumeRecord w record).run s = .error (.exception what) s := by
  unfold resumeRecord
  rw [EStateM.run_bind, EStateM.run_get]
  dsimp only
  cases last : s.commitManager.getLastCommit record.topic record.messageIdentifier with
  | none => exact absurd last present
  | some lastCommit =>
      obtain ⟨what, refused⟩ := sendCommitOffset_of_fatal (w := w) fatal lastCommit
      refine ⟨what, ?_⟩
      dsimp only
      rw [EStateM.run_bind, refused]

theorem forM_resumeRecord_returns (unconnected : s.connectionState ≠ .connected)
    {records : List SubscriptionRecord}
    (spared : s.fatalErrorDetected = false ∨ ∀ record ∈ records, ¬ HasCommit s.commitManager record) :
    (records.forM (resumeRecord w)).run s = .ok () s := by
  induction records with
  | nil => rfl
  | cons record records ih =>
      have first : (resumeRecord w record).run s = .ok () s :=
        resumeRecord_returns unconnected (spared.imp id fun free => free record List.mem_cons_self)
      have rest : (records.forM (resumeRecord w)).run s = .ok () s :=
        ih (spared.imp id fun free other among => free other (List.mem_cons_of_mem _ among))
      change (resumeRecord w record >>= fun _ => records.forM (resumeRecord w)).run s = _
      rw [EStateM.run_bind, first]
      exact rest

/-- The first record with a commit ends the resumption. -/
theorem forM_resumeRecord_throws (unconnected : s.connectionState ≠ .connected)
    (fatal : s.fatalErrorDetected = true) {records : List SubscriptionRecord}
    (present : ∃ record ∈ records, HasCommit s.commitManager record) :
    ∃ what, (records.forM (resumeRecord w)).run s = .error (.exception what) s := by
  induction records with
  | nil =>
      obtain ⟨record, among, -⟩ := present
      cases among
  | cons record records ih =>
      change ∃ what, (resumeRecord w record >>= fun _ => records.forM (resumeRecord w)).run s =
        .error (.exception what) s
      rw [EStateM.run_bind]
      by_cases here : HasCommit s.commitManager record
      · obtain ⟨what, thrown⟩ := resumeRecord_throws (w := w) fatal here
        exact ⟨what, by rw [thrown]⟩
      · rw [resumeRecord_returns unconnected (Or.inr here)]
        obtain ⟨other, among, there⟩ := present
        rcases List.mem_cons.mp among with rfl | later
        · exact absurd there here
        · exact ih ⟨other, later, there⟩

end Resumption

section Connects

variable {begun d : Impl} {result : SessionConnectionResult}

def entered (result : SessionConnectionResult) (c : Impl) : Impl :=
  { c with
    stats.successfulConnections := c.stats.successfulConnections + 1
    stats.currentSessionId := result.sessionId
    stats.currentLeaderId := result.leaderMemberId
    stats.isConnected := true
    disconnectNotified := false
    reconnectInProgress := false }

/-- A connect call in which Aeron, the egress subscription and the session manager succeed, and
which begins to resume its subscriptions in the state `s`. -/
structure Resuming (w : World) (c s : Impl) : Prop where
  unconnected : c.connectionState ≠ .connected
  opened : ∃ begun result d, (setConnectionState w .connecting).run c = .ok () begun ∧
    (approach w).run begun = .ok (some result) d ∧ (pause w).run (entered result d) = .ok () s

/-- The call returns true, in the state `CONNECTED` and with no driver error recorded. -/
def Recovers (w : World) (c : Impl) : Prop :=
  ∃ after, (connect w).run c = .ok true after ∧ after.connectionState = .connected ∧
    after.fatalErrorDetected = false ∧ after.fatalErrorMessage = []

theorem Resuming.mute (resuming : Resuming w c s) :
    s.connectionState ≠ .connected ∧ s.subscriptions = c.subscriptions := by
  obtain ⟨begun, result, d, stored, opened, paused⟩ := resuming.opened
  have first : Mute c begun :=
    (mute_of_quiet (quiet_of_disturbs (disturbs_setConnectionState (by decide)))).of_ok stored
  have second : Mute begun d := mute_approach.of_ok opened
  have last : Mute (entered result d) s := (mute_of_quiet quiet_pause).of_ok paused
  obtain ⟨unconnected, subscriptions, -⟩ := trans_of Mute first second resuming.unconnected
  obtain ⟨still, subscriptions', -⟩ := last unconnected
  exact ⟨still, subscriptions'.trans subscriptions⟩

theorem resumeRecords_congr (same : s.subscriptions = c.subscriptions)
    (order : Lib.Unordered.Enumeration StdString) :
    resumeRecords s order = resumeRecords c order := by
  have fields := same
  simp only [Impl.subscriptions, Subscriptions.mk.injEq] at fields
  obtain ⟨config, -, topics, tracked⟩ := fields
  unfold resumeRecords
  rw [same, config, topics, tracked]

/-- From the resumption on, a connect call goes on in the state it has come to. -/
theorem attempt_of_opened (opened : (approach w).run begun = .ok (some result) d)
    (paused : (pause w).run (entered result d) = .ok () s) :
    (attempt w).run begun = (do
      resumeSubscribedTopics w
      pause w
      clearDriverErrorState
      return true : ClientM Bool).run s := by
  have rest : (enter w (some result)).run d =
      ((do
        pause w
        resumeSubscribedTopics w
        pause w
        clearDriverErrorState : ClientM Unit) >>= fun _ => pure true : ClientM Bool).run
          (entered result d) := rfl
  unfold attempt
  rw [EStateM.run_bind, opened]
  dsimp only
  rw [rest, bind_assoc, EStateM.run_bind, paused]
  simp only [bind_assoc]

theorem resumeSubscribedTopics_run (same : s.subscriptions = c.subscriptions) :
    (resumeSubscribedTopics w).run s =
      ((resumeRecords c w.order).forM (resumeRecord w)).run s := by
  rw [← resumeRecords_congr same]
  rfl

def forgiven (c : Impl) : Impl := { c with fatalErrorDetected := false, fatalErrorMessage := [] }

/-- No driver error is recorded, or none of the records has a commit to go on from. -/
def Spared (s : Impl) (records : List SubscriptionRecord) : Prop :=
  s.fatalErrorDetected = false ∨ ∀ record ∈ records, ¬ HasCommit s.commitManager record

theorem attempt_of_spared (opened : (approach w).run begun = .ok (some result) d)
    (paused : (pause w).run (entered result d) = .ok () s) (unconnected : s.connectionState ≠ .connected)
    (same : s.subscriptions = c.subscriptions) (spared : Spared s (resumeRecords c w.order)) :
    (attempt w).run begun = .ok true (forgiven (finalState (pause w) s)) := by
  obtain ⟨_, t, last⟩ := total_pause (w := w) s
  rw [finalState_of_ok last, attempt_of_opened opened paused, EStateM.run_bind,
    resumeSubscribedTopics_run same, forM_resumeRecord_returns unconnected spared]
  dsimp only
  rw [EStateM.run_bind, last]
  rfl

theorem attempt_of_not_spared (opened : (approach w).run begun = .ok (some result) d)
    (paused : (pause w).run (entered result d) = .ok () s) (unconnected : s.connectionState ≠ .connected)
    (same : s.subscriptions = c.subscriptions) (refused : ¬ Spared s (resumeRecords c w.order)) :
    ∃ what, (attempt w).run begun = .error (.exception what) s := by
  have fatal : s.fatalErrorDetected = true := by
    rw [← Bool.not_eq_false]
    exact fun healthy => refused (Or.inl healthy)
  have present : ∃ record ∈ resumeRecords c w.order, HasCommit s.commitManager record := by
    by_contra absent
    exact refused (Or.inr fun record among there => absent ⟨record, among, there⟩)
  obtain ⟨what, thrown⟩ := forM_resumeRecord_throws (w := w) unconnected fatal present
  refine ⟨what, ?_⟩
  rw [attempt_of_opened opened paused, EStateM.run_bind, resumeSubscribedTopics_run same, thrown]

/-- Exactly when a connect call whose session has been opened gets past a driver error: none is
recorded when the subscriptions are resumed, or none of these has a commit to go on from; and the
user does not throw when told of the new state. -/
theorem recovers_iff (resuming : Resuming w c s) :
    Recovers w c ↔
      Spared s (resumeRecords c w.order) ∧
        ¬ StateCallbackThrows w .connected (finalState (pause w) s) := by
  obtain ⟨unconnected, same⟩ := resuming.mute
  obtain ⟨begun, result, d, stored, opened, paused⟩ := resuming.opened
  constructor
  · rintro ⟨after, run, -⟩
    obtain ⟨begun', arrived, stored', attempted, connects⟩ :=
      (connect_eq_true resuming.unconnected).mp run
    obtain rfl : begun' = begun := by
      rw [stored'] at stored
      cases stored
      rfl
    by_cases spared : Spared s (resumeRecords c w.order)
    · refine ⟨spared, fun throws => ?_⟩
      have forgets : StateCallbackThrows w .connected (forgiven (finalState (pause w) s)) := throws
      rw [attempt_of_spared opened paused unconnected same spared] at attempted
      cases attempted
      obtain ⟨what, thrown⟩ := setConnectionState_throws forgets
      rw [thrown] at connects
      cases connects
    · obtain ⟨what, thrown⟩ := attempt_of_not_spared opened paused unconnected same spared
      rw [thrown] at attempted
      cases attempted
  · rintro ⟨spared, returns⟩
    have forgets : ¬ StateCallbackThrows w .connected (forgiven (finalState (pause w) s)) := returns
    have arrives := attempt_of_spared opened paused unconnected same spared
    have connects := setConnectionState_returns forgets
    refine ⟨_, (connect_eq_true resuming.unconnected).mpr ⟨begun, _, stored, arrives, connects⟩,
      announced_connectionState _ _, ?_⟩
    unfold announced
    split
    · exact ⟨rfl, rfl⟩
    · exact ⟨rfl, rfl⟩

section Sample

def answering : World :=
  { json := Json.plainJson
    order := lexicographic
    session := { events := fun _ =>
      [.session
        { success := true
          templateId := Sbe.Encoder.SESSION_EVENT_TEMPLATE_ID
          schemaId := Sbe.Encoder.CLUSTER_SCHEMA_ID
          correlationId := 7
          leadershipTermId := 1
          eventCode := Session.Manager.SESSION_EVENT_OK }] } }

/-- A subscription is made and committed, and then the driver fails. -/
def driverFailure : List Operations.Step :=
  [⟨answering, .act .connect⟩,
    ⟨answering, .act (.subscribe (ascii "orders") (ascii "sub_1") (ascii "LATEST") [])⟩,
    ⟨answering, .act (.commit
      { topic := ascii "orders", messageIdentifier := ascii "sub_1", messageId := ascii "msg_1",
        timestampNanos := 1, sequenceNumber := 1 })⟩,
    ⟨answering, .act (.event (.driverError (ascii "driver timeout")))⟩]

def failedClient : Impl := Operations.reached {} (ascii "i_1") driverFailure

/-- The client when it is told to connect again, and when the session has been opened. -/
def begunClient : Impl := finalState (setConnectionState answering .connecting) failedClient

def openedClient : Impl := finalState (approach answering) begunClient

def reopened : SessionConnectionResult :=
  { success := true, sessionId := 7, leaderMemberId := 0, leadershipTermId := 1 }

def resumingClient : Impl := finalState (pause answering) (entered reopened openedClient)

private theorem failedClient_resumes : Resuming answering failedClient resumingClient := by
  have stored : returned (setConnectionState answering .connecting) failedClient = some () := by
    decide +kernel
  have opened : returned (approach answering) begunClient = some (some reopened) := by decide +kernel
  have paused : returned (pause answering) (entered reopened openedClient) = some () := by
    decide +kernel
  exact ⟨by decide +kernel, begunClient, reopened, openedClient, run_of_returned stored,
    run_of_returned opened, run_of_returned paused⟩

theorem recovers_iff_failedClient :
    Recovers answering failedClient ↔
      Spared resumingClient (resumeRecords failedClient lexicographic) ∧
        ¬ StateCallbackThrows answering .connected (finalState (pause answering) resumingClient) :=
  recovers_iff failedClient_resumes

/-- After a driver error that meets a commit, a connect call fails although a session is opened. -/
theorem driver_error_blocks_connect :
    ¬ ∀ (config : ClusterClientConfig) (generated : StdString) (steps : List Operations.Step)
        (w : World) (s : Impl),
      (∃ step ∈ steps, ∃ message, step.operation = .act (.event (.driverError message))) →
        Resuming w (Operations.reached config generated steps) s →
          Recovers w (Operations.reached config generated steps) := by
  intro claim
  have failing : ∃ step ∈ driverFailure, ∃ message,
      step.operation = .act (.event (.driverError message)) :=
    ⟨_, List.mem_of_getLast? (by rfl), ascii "driver timeout", rfl⟩
  obtain ⟨after, run, -⟩ := claim {} (ascii "i_1") driverFailure answering resumingClient failing
    failedClient_resumes
  have returns : returned (connect answering) failedClient = some true := returned_eq_some.mpr ⟨after, run⟩
  revert returns
  decide +kernel

end Sample

end Connects

end AeronClusterClient.Client.DriverRecovery
