/- module: AeronClusterClient/Commit/ControlPayloads
   source: include/aeron_cluster/subscription.hpp, src/commit_manager.cpp (build_commit_message)
   digest: Which subscription, unsubscription and commit requests say what they were given. -/

import AeronClusterClient.Commit.ControlFrames
import AeronClusterClient.Lib.JsonText

/-!
The payloads are put together by concatenation, while those of the other
requests come from the JSON writer. A quote in a topic ends the topic.
-/

set_option autoImplicit false
set_option relaxedAutoImplicit false

namespace AeronClusterClient.Commit.ControlPayloads

open Commit.Manager Commit.ControlFrames
open Lib.JsonText (Plain Says quoted unescapedMembers unescapedObject says_unescapedObject_iff)
open Text (StdString ascii)

def requestFields (action topic clientId : StdString) : List (StdString × StdString) :=
  [(ascii "topic", topic), (ascii "action", action), (ascii "client_id", clientId)]

/-- A subscription says its strategy too, unless it is empty. -/
def subscribeFields (targetTopic clientId resumeStrategy : StdString) :
    List (StdString × StdString) :=
  requestFields (ascii "SUBSCRIBE") targetTopic clientId ++
    if resumeStrategy.isEmpty then [] else [(ascii "resumeStrategy", resumeStrategy)]

theorem subscribePayload_eq (targetTopic clientId resumeStrategy : StdString) :
    subscribePayload targetTopic clientId resumeStrategy =
      unescapedObject (subscribeFields targetTopic clientId resumeStrategy) := by
  cases resumeStrategy with
  | nil =>
      simp [subscribePayload, subscribeFields, requestFields, unescapedObject, unescapedMembers,
        quoted, ascii]
  | cons c rest =>
      simp [subscribePayload, subscribeFields, requestFields, unescapedObject, unescapedMembers,
        quoted, ascii]

theorem unsubscribePayload_eq (targetTopic clientId : StdString) :
    unsubscribePayload targetTopic clientId =
      unescapedObject (requestFields (ascii "UNSUBSCRIBE") targetTopic clientId) := by
  simp [unsubscribePayload, requestFields, unescapedObject, unescapedMembers, quoted, ascii]

theorem commitPayload_eq (topic clientId : StdString) :
    commitPayload topic clientId =
      unescapedObject (requestFields (ascii "COMMIT") topic clientId) := by
  simp [commitPayload, requestFields, unescapedObject, unescapedMembers, quoted, ascii]

theorem plain_requestFields {action topic clientId : StdString} (fixed : Plain action) :
    (∀ f ∈ requestFields action topic clientId, Plain f.1 ∧ Plain f.2) ↔
      Plain topic ∧ Plain clientId := by
  have names : Plain (ascii "topic") ∧ Plain (ascii "action") ∧ Plain (ascii "client_id") := by decide
  simp [requestFields, names, fixed]

theorem says_request_iff {action : StdString} (fixed : Plain action) (topic clientId : StdString) :
    Says (unescapedObject (requestFields action topic clientId))
        (requestFields action topic clientId) ↔ Plain topic ∧ Plain clientId := by
  have names : ((requestFields action topic clientId).map Prod.fst).Nodup := by
    change [ascii "topic", ascii "action", ascii "client_id"].Nodup
    decide
  rw [says_unescapedObject_iff names, plain_requestFields fixed]

theorem plain_subscribeFields (targetTopic clientId resumeStrategy : StdString) :
    (∀ f ∈ subscribeFields targetTopic clientId resumeStrategy, Plain f.1 ∧ Plain f.2) ↔
      Plain targetTopic ∧ Plain clientId ∧ Plain resumeStrategy := by
  have action : Plain (ascii "SUBSCRIBE") := by decide
  have name : Plain (ascii "resumeStrategy") := by decide
  unfold subscribeFields
  rw [List.forall_mem_append, plain_requestFields action]
  cases resumeStrategy with
  | nil => simp [Plain]
  | cons c rest => simp [name, and_assoc]

theorem names_subscribeFields (targetTopic clientId resumeStrategy : StdString) :
    ((subscribeFields targetTopic clientId resumeStrategy).map Prod.fst).Nodup := by
  cases resumeStrategy with
  | nil =>
      change [ascii "topic", ascii "action", ascii "client_id"].Nodup
      decide
  | cons c rest =>
      change [ascii "topic", ascii "action", ascii "client_id", ascii "resumeStrategy"].Nodup
      decide

section Payloads

/-- Each of the three payloads says what the builder was given exactly if none of the strings has a
character that needs an escape. -/
theorem payloads_say_iff (topic clientId resumeStrategy : StdString) :
    (Says (subscribePayload topic clientId resumeStrategy)
        (subscribeFields topic clientId resumeStrategy) ↔
      Plain topic ∧ Plain clientId ∧ Plain resumeStrategy) ∧
    (Says (unsubscribePayload topic clientId)
        (requestFields (ascii "UNSUBSCRIBE") topic clientId) ↔ Plain topic ∧ Plain clientId) ∧
    (Says (commitPayload topic clientId) (requestFields (ascii "COMMIT") topic clientId) ↔
      Plain topic ∧ Plain clientId) := by
  have unsubscribe : Plain (ascii "UNSUBSCRIBE") := by decide
  have commit : Plain (ascii "COMMIT") := by decide
  refine ⟨?_, ?_, ?_⟩
  · rw [subscribePayload_eq, says_unescapedObject_iff (names_subscribeFields _ _ _),
      plain_subscribeFields]
  · rw [unsubscribePayload_eq, says_request_iff unsubscribe]
  · rw [commitPayload_eq, says_request_iff commit]

section Sample

/-- A topic that closes its own string and brings an action of its own. -/
def forgingTopic : StdString := ascii "orders\",\"action\":\"COMMIT\",\"x\":\"y"

theorem topic_forges_action :
    ¬ ∀ topic clientId resumeStrategy : StdString, resumeStrategy ≠ [] →
      Says (subscribePayload topic clientId resumeStrategy)
          (subscribeFields topic clientId resumeStrategy) ∧
        Says (unsubscribePayload topic clientId)
          (requestFields (ascii "UNSUBSCRIBE") topic clientId) ∧
        Says (commitPayload topic clientId) (requestFields (ascii "COMMIT") topic clientId) := by
  intro claim
  obtain ⟨-, said, -⟩ := claim forgingTopic (ascii "client") (ascii "LATEST") (by decide)
  have unsubscribe : Plain (ascii "UNSUBSCRIBE") := by decide
  rw [unsubscribePayload_eq, says_request_iff unsubscribe] at said
  have quote : ¬ Plain forgingTopic := by decide
  exact quote said.1

end Sample

end Payloads

end AeronClusterClient.Commit.ControlPayloads
