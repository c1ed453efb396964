/- module: AeronClusterClient/Client/ResumeOnConnect
   source: src/cluster_client.cpp (connect, resume_subscribed_topics, send_commit_offset, is_connected)
   digest: A connect call resumes its tracked subscriptions only when there are none. -/

import AeronClusterClient.Client.Connection

/-!
`connect` resumes the subscriptions before it stores the state `CONNECTED`, and
every send of the resumption asks `is_connected()`, which wants that state. The
sends therefore fail in silence and the call still returns true.
-/

set_option autoImplicit false
set_option relaxedAutoImplicit false

namespace AeronClusterClient.Client.ResumeOnConnect

open Lib.Action Client.State Client.Subscriptions Client.Connection
open Session.Manager (Machine SessionState)
open Commit.Manager (CommitManager buildCommitOffsetMessage)
open Text (StdString ascii)

/-- The frame that resumes a subscription: its last commit, or else a SUBSCRIBE request
with the identifiers and the strategy of its record. -/
def Resumes (w : World) (commits : CommitManager) (record : SubscriptionRecord)
    (handed : Handed) : Prop :=
  match commits.getLastCommit record.topic record.messageIdentifier with
  | some lastCommit =>
      ∃ timestamp stamp frame,
        buildCommitOffsetMessage w.json lastCommit.messageIdentifier lastCommit timestamp stamp =
            .ok frame ∧
          handed = .combined frame
  | none =>
      ∃ messageId,
        handed = .publish (ascii "_subscriptions") (ascii "SUBSCRIBE") messageId
          (w.json.write (subscribePayload record.topic record.messageIdentifier
            record.resumeStrategy record.instanceIdentifier))
          (w.json.write (requestHeaders messageId))

/-- Between the two states the session manager was handed one frame for each tracked
subscription, in some order. -/
def ResumesEvery (w : World) (c after : Impl) : Prop :=
  ∃ records frames,
    records.Perm (c.trackedSubscriptions.entries.map Sigma.snd) ∧
      after.handed = c.handed ++ frames ∧
      List.Forall₂ (Resumes w c.commitManager) records frames

theorem untracked_of_silence {w : World} {c after : Impl} (silent : after.handed = c.handed)
    (resumed : ResumesEvery w c after) : c.trackedSubscriptions = ∅ := by
  obtain ⟨records, frames, listed, handed, each⟩ := resumed
  have noFrames : frames = [] := by
    rw [silent] at handed
    exact List.self_eq_append_right.mp handed
  have noRecords : records = [] := by
    have lengths := each.length_eq
    rw [noFrames, List.length_nil] at lengths
    exact List.length_eq_zero_iff.mp lengths
  rw [noRecords] at listed
  exact AList.ext (List.map_eq_nil_iff.mp listed.symm.eq_nil)

/-- Every connect call that opens a session hands nothing on, so it resumes every
subscription exactly when none is tracked. -/
theorem resumes_every_iff {w : World} {c after : Impl}
    (unconnected : c.connectionState ≠ .connected)
    (run : (connect w).run c = .ok true after) :
    ResumesEvery w c after ↔ c.trackedSubscriptions = ∅ := by
  have silent : after.handed = c.handed := (unheard_connect.of_ok run unconnected).2
  constructor
  · exact untracked_of_silence silent
  · intro untracked
    refine ⟨[], [], ?_, by rw [silent, List.append_nil], .nil⟩
    rw [untracked]
    exact .nil

section Sample

def accepting : World :=
  { json := Json.plainJson
    order := lexicographic
    session := { events := fun n => if n = 7 then
      [.session
        { success := true
          templateId := Sbe.Encoder.SESSION_EVENT_TEMPLATE_ID
          schemaId := Sbe.Encoder.CLUSTER_SCHEMA_ID
          correlationId := 7
          leadershipTermId := 1
          eventCode := Session.Manager.SESSION_EVENT_OK }]
      else [] } }

/-- A client that has lost its session and tracks one subscription without a commit. -/
def oneSubscription : Impl :=
  trackSubscription { config := {} } (ascii "orders") (ascii "sub_1") (ascii "LATEST") (ascii "i_1")

def connected : Impl := finalState (connect accepting) oneSubscription

private theorem accepting_connects : (connect accepting).run oneSubscription = .ok true connected := by
  obtain ⟨after, run⟩ := returned_eq_some.mp
    (show returned (connect accepting) oneSubscription = some true by decide +kernel)
  rw [run, connected, finalState_of_ok run]

theorem resumes_every_iff_sample :
    ResumesEvery accepting oneSubscription connected ↔ oneSubscription.trackedSubscriptions = ∅ :=
  resumes_every_iff (by decide) accepting_connects

/-- No driver error is recorded or raised, and the publication accepts every offer. -/
structure Healthy (w : World) (c : Impl) : Prop where
  recorded : c.fatalErrorDetected = false
  raised : ∀ n message, .driverError message ∉ w.meanwhile n
  offers : ∀ n, ∃ position, 0 < position ∧ w.session.offer n = .ok position

/-- The client connects and says nothing about its subscription. -/
theorem connect_resumes_nothing :
    ¬ ∀ (w : World) (c after : Impl), Healthy w c → c.connectionState ≠ .connected →
      (connect w).run c = .ok true after → ResumesEvery w c after := by
  intro claim
  have resumed := claim accepting oneSubscription connected
    ⟨rfl, fun _ _ => List.not_mem_nil, fun _ => ⟨1, by decide, rfl⟩⟩ (by decide) accepting_connects
  have silent := (unheard_connect.of_ok accepting_connects (by decide)).2
  exact absurd (congrArg (·.entries.length) (untracked_of_silence silent resumed)) (by decide)

end Sample

end AeronClusterClient.Client.ResumeOnConnect
