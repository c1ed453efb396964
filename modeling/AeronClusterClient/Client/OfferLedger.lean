/- module: AeronClusterClient/Client/OfferLedger
   source: src/session_manager.cpp (send_raw_message, send_combined_message, send_keepalive,
   send_session_connect_request, disconnect, get_session_stats), src/cluster_client.cpp
   digest: The counters of a session manager against the frames that the publication has accepted. -/

import AeronClusterClient.Client.Envelopes
import AeronClusterClient.Session.Acceptance

/-!
Three kinds of frames go through the ingress publication: connect requests,
keepalives, and all that is counted as a message (published messages, commits
and close requests). A counter is raised in the very step in which an offer is
accepted, so whatever other threads do meanwhile the counters and the frames
agree.
-/

set_option autoImplicit false
set_option relaxedAutoImplicit false

namespace AeronClusterClient.Client.OfferLedger

open Lib.Action Lib.Runs
open Client.State Client.SessionEffects Client.Operations Client.Envelopes
open Sbe.GeneratedCodec Sbe.Encoder
open Session.Manager (SessionState Event)
open Session.Updates (Connects Tallies countMessage countKeepalive handleSessionEvent_handles
  handleSessionEvent_of_other tallied_disconnect tallied_publishMessage tallied_sendCombinedMessage
  tallied_sendKeepalive tallied_sendRawMessage tallied_sendSessionConnectRequest within_connect)
open Session.PrebuiltFrames (Prebuilt KeepsPrebuilt cached sessionHeader prebuilt_apply
  prebuilt_initial prebuilt_of_cached prebuilt_of_disconnected)
open Session.Acceptance (acceptedFrames)
open Commit.Manager (buildCommitMessage subscriptionsFrame_eq_ok)
open Config (ClusterClientConfig)
open Text (StdString)

section Kinds

def headerOf (frame : List UInt8) : MessageHeader := MessageHeader.ofBytes (frame.take 8)

/-- The frame is one of the session protocol, with this template. -/
def isControl (templateId : Nat) (frame : List UInt8) : Bool :=
  (headerOf frame).schemaId == CLUSTER_SCHEMA_ID && (headerOf frame).templateId == templateId

def isConnectRequest : List UInt8 → Bool := isControl SESSION_CONNECT_TEMPLATE_ID

def isKeepalive : List UInt8 → Bool := isControl SESSION_KEEPALIVE_TEMPLATE_ID

/-- What `messages_sent` counts. -/
def isMessage (frame : List UInt8) : Bool := !isConnectRequest frame && !isKeepalive frame

theorem headerOf_append {header : MessageHeader} (rest : List UInt8)
    (blockLength : header.blockLength < 65536) (templateId : header.templateId < 65536)
    (schemaId : header.schemaId < 65536) (version : header.version < 65536) :
    headerOf (header.bytes ++ rest) = header := by
  unfold headerOf
  have eight := header.length_bytes
  rw [List.take_append_of_le_length eight.ge, ← eight, List.take_length,
    MessageHeader.ofBytes_bytes blockLength templateId schemaId version]

theorem headerOf_sessionFrame {templateId : Nat} (small : templateId < 65536)
    (leadershipTermId sessionId : Int) :
    headerOf (sessionFrame templateId leadershipTermId sessionId) =
      ⟨16, templateId, CLUSTER_SCHEMA_ID, CLUSTER_SCHEMA_VERSION⟩ := by
  have header : (16 < 65536 ∧ CLUSTER_SCHEMA_ID < 65536) ∧ CLUSTER_SCHEMA_VERSION < 65536 := by decide
  unfold sessionFrame
  simp only [List.append_assoc]
  exact headerOf_append _ header.1.1 small header.1.2 header.2

theorem isKeepalive_encode (leadershipTermId sessionId : Int) :
    isKeepalive (encodeSessionKeepAlive leadershipTermId sessionId) = true := by
  unfold isKeepalive isControl encodeSessionKeepAlive
  rw [headerOf_sessionFrame (by decide)]
  decide

theorem isMessage_closeRequest (leadershipTermId sessionId : Int) :
    isMessage (encodeSessionCloseRequest leadershipTermId sessionId) = true := by
  unfold isMessage isConnectRequest isKeepalive isControl encodeSessionCloseRequest
  rw [headerOf_sessionFrame (by decide)]
  decide

theorem isConnectRequest_encode (correlationId responseStreamId : Int) (responseChannel : StdString)
    (protocolVersion : Int) :
    isConnectRequest (encodeSessionConnectRequest correlationId responseStreamId responseChannel
      protocolVersion) = true := by
  unfold isConnectRequest isControl encodeSessionConnectRequest
  simp only [List.append_assoc]
  rw [headerOf_append _ (by decide) (by decide) (by decide) (by decide)]
  decide

theorem isMessage_sessionHeader (leadershipTermId sessionId : Int) (businessMessage : List UInt8) :
    isMessage (sessionHeader leadershipTermId sessionId ++ businessMessage) = true := by
  unfold isMessage isConnectRequest isKeepalive isControl sessionHeader
  simp only [List.append_assoc]
  rw [headerOf_append _ (by decide) (by decide) (by decide) (by decide)]
  decide

theorem isMessage_of_schema {frame : List UInt8} (schema : OfSchema 1 frame) :
    isMessage frame = true := by
  have other : (headerOf frame).schemaId = 1 := schema.2
  have foreign : (1 == CLUSTER_SCHEMA_ID) = false := by decide
  unfold isMessage isConnectRequest isKeepalive isControl
  rw [other, foreign]
  rfl

theorem not_keepalive_of_request {frame : List UInt8} (request : isConnectRequest frame = true) :
    isKeepalive frame = false := by
  unfold isConnectRequest isControl at request
  unfold isKeepalive isControl
  have template : (headerOf frame).templateId = SESSION_CONNECT_TEMPLATE_ID := by
    simpa using (Bool.and_eq_true_iff.mp request).2
  rw [template]
  exact Bool.and_false _

/-- Every accepted frame is of exactly one of the three kinds. -/
theorem length_eq_kinds (frames : List (List UInt8)) :
    frames.length =
      frames.countP isMessage + frames.countP isKeepalive + frames.countP isConnectRequest := by
  induction frames with
  | nil => rfl
  | cons frame frames ih =>
      rw [List.length_cons, List.countP_cons, List.countP_cons, List.countP_cons, ih]
      cases request : isConnectRequest frame with
      | true =>
          rw [not_keepalive_of_request request]
          simp [isMessage, request]
          omega
      | false => cases keepalive : isKeepalive frame <;> simp [isMessage, request, keepalive] <;> omega

end Kinds

section Ledger

/-- Both counters agree with the accepted frames, and the buffers for the next ones have the shape
of their frames. -/
structure Balanced (s : SessionState) : Prop where
  prebuilt : Prebuilt s
  messages : s.stats.messagesSent = (acceptedFrames s.offered).countP isMessage
  keepalives : s.stats.keepalivesSent = (acceptedFrames s.offered).countP isKeepalive

def KeepsBalanced (s after : SessionState) : Prop := Balanced s → Balanced after

instance : IsPreorder SessionState KeepsBalanced where
  refl _ := id
  trans _ _ _ first rest := rest ∘ first

/-- The part of a session that the two counters are compared with, and the counters. -/
def accounts (s : SessionState) := (s.offered, s.stats.messagesSent, s.stats.keepalivesSent)

theorem keepsBalanced_of_same {s after : SessionState} (same : accounts after = accounts s)
    (kept : KeepsPrebuilt s after) : KeepsBalanced s after := by
  simp only [accounts, Prod.mk.injEq] at same
  obtain ⟨offered, messagesSent, keepalivesSent⟩ := same
  refine fun before => ⟨kept before.prebuilt, ?_, ?_⟩
  · rw [offered, messagesSent, before.messages]
  · rw [offered, keepalivesSent, before.keepalives]

theorem handleOfferFailure_accounts (s : SessionState) (result : Int) :
    accounts (s.handleOfferFailure result) = accounts s := by
  unfold SessionState.handleOfferFailure SessionState.handleConnectionLoss
  dsimp only
  split
  · rfl
  · split
    · split <;> rfl
    · rfl

/-- No event is an offer, and no event is counted as one. -/
theorem apply_accounts (s : SessionState) (event : Event) : accounts (s.apply event) = accounts s := by
  cases event with
  | session result =>
      change accounts (s.handleSessionEvent result) = _
      cases isEvent : result.isSessionEvent with
      | false => rw [handleSessionEvent_of_other s isEvent]
      | true =>
          obtain ⟨handled, handles, same⟩ := handleSessionEvent_handles s isEvent
          rw [same]
          cases handles <;> rfl
  | offerFailed result => exact handleOfferFailure_accounts s result
  | publication connected => rfl

theorem keepsBalanced_apply (s : SessionState) (event : Event) : KeepsBalanced s (s.apply event) :=
  keepsBalanced_of_same (apply_accounts s event) (prebuilt_apply event)

theorem acceptedFrames_append (offers : List (List UInt8 × Int)) (frame : List UInt8) (result : Int) :
    acceptedFrames (offers ++ [(frame, result)]) =
      acceptedFrames offers ++ if 0 < result then [frame] else [] := by
  unfold acceptedFrames
  rw [List.filter_append, List.map_append]
  congr 1
  split
  · simp [*]
  · simp [*]

theorem keepsBalanced_refused (frame : List UInt8) (s : SessionState) {result : Int}
    (refused : result ≤ 0) :
    KeepsBalanced s { s with offered := s.offered ++ [(frame, result)] } := by
  have same : acceptedFrames (s.offered ++ [(frame, result)]) = acceptedFrames s.offered := by
    rw [acceptedFrames_append, if_neg (by omega), List.append_nil]
  refine fun before => ⟨prebuilt_of_cached before.prebuilt rfl id, ?_, ?_⟩
  · rw [same]
    exact before.messages
  · rw [same]
    exact before.keepalives

theorem tallies_message {frame : List UInt8} (message : isMessage frame = true) :
    Tallies KeepsBalanced countMessage fun _ => frame where
  accepted := by
    intro s result positive before
    have plain : isKeepalive frame = false := by
      unfold isMessage at message
      simpa using (Bool.and_eq_true_iff.mp message).2
    have booked := acceptedFrames_append s.offered frame result
    rw [if_pos positive] at booked
    refine ⟨prebuilt_of_cached before.prebuilt rfl id, ?_, ?_⟩
    · change s.stats.messagesSent + 1 = (acceptedFrames (s.offered ++ [(frame, result)])).countP _
      rw [booked, List.countP_append, before.messages]
      simp [message]
    · change s.stats.keepalivesSent = (acceptedFrames (s.offered ++ [(frame, result)])).countP _
      rw [booked, List.countP_append, before.keepalives]
      simp [plain]
  refused := fun s _ refused => keepsBalanced_refused frame s refused

theorem tallies_keepalive : Tallies KeepsBalanced countKeepalive SessionState.keepaliveBuffer where
  accepted := by
    intro s result positive before
    obtain ⟨leadershipTermId, sessionId, shape⟩ := before.prebuilt.keepalive
    have keepalive : isKeepalive s.keepaliveBuffer = true := by
      rw [shape]
      exact isKeepalive_encode _ _
    have booked := acceptedFrames_append s.offered s.keepaliveBuffer result
    rw [if_pos positive] at booked
    refine ⟨prebuilt_of_cached before.prebuilt rfl id, ?_, ?_⟩
    · change s.stats.messagesSent =
        (acceptedFrames (s.offered ++ [(s.keepaliveBuffer, result)])).countP _
      rw [booked, List.countP_append, before.messages]
      simp [isMessage, keepalive]
    · change s.stats.keepalivesSent + 1 =
        (acceptedFrames (s.offered ++ [(s.keepaliveBuffer, result)])).countP _
      rw [booked, List.countP_append, before.keepalives]
      simp [keepalive]
  refused := fun s _ refused => keepsBalanced_refused _ s refused

/-- A connect request is counted nowhere. -/
theorem tallies_request {frame : List UInt8} (request : isConnectRequest frame = true) :
    Tallies KeepsBalanced SessionState.requestAccepted fun _ => frame where
  accepted := by
    intro s result positive before
    have booked := acceptedFrames_append s.offered frame result
    rw [if_pos positive] at booked
    refine ⟨prebuilt_of_cached before.prebuilt rfl id, ?_, ?_⟩
    · change s.stats.messagesSent = (acceptedFrames (s.offered ++ [(frame, result)])).countP _
      rw [booked, List.countP_append, before.messages]
      simp [isMessage, request]
    · change s.stats.keepalivesSent = (acceptedFrames (s.offered ++ [(frame, result)])).countP _
      rw [booked, List.countP_append, before.keepalives]
      simp [not_keepalive_of_request request]
  refused := fun s _ refused => keepsBalanced_refused frame s refused

end Ledger

section Runs

variable {config : ClusterClientConfig} {world : Session.Manager.World}

theorem keepsBalanced_aside {s after : SessionState} (same : accounts after = accounts s)
    (cache : cached after = cached s) (connected : after.connected = s.connected) :
    KeepsBalanced s after :=
  keepsBalanced_of_same same fun prebuilt =>
    prebuilt_of_cached prebuilt cache fun still => connected ▸ still

theorem connects_keepsBalanced : Connects config world KeepsBalanced where
  event s event _ := keepsBalanced_apply s event
  request := tallied_sendSessionConnectRequest (fun s event _ => keepsBalanced_apply s event)
    fun _ => tallies_request (isConnectRequest_encode _ _ _ _)
  publication _ _ := keepsBalanced_aside rfl rfl rfl
  leader _ _ := keepsBalanced_aside rfl rfl rfl
  redirect _ := keepsBalanced_aside rfl rfl rfl
  thread _ := keepsBalanced_aside rfl rfl rfl

theorem tallies_business (businessMessage : List UInt8) {t : SessionState} (balanced : Balanced t) :
    Tallies KeepsBalanced countMessage fun _ => t.sessionHeaderBuffer ++ businessMessage := by
  obtain ⟨leadershipTermId, sessionId, shape⟩ := balanced.prebuilt.header
  rw [shape]
  exact tallies_message (isMessage_sessionHeader _ _ _)

theorem respects_keepsBalanced : Respects KeepsBalanced where
  event := keepsBalanced_apply
  taken _ := keepsBalanced_aside rfl rfl rfl
  connect _ _ := within_connect connects_keepsBalanced
  disconnect _ _ := by
    refine tallied_disconnect (fun s event _ => keepsBalanced_apply s event) (fun _ _ => ?_) fun s => ?_
    · exact tallied_sendRawMessage (fun s event _ => keepsBalanced_apply s event)
        (tallies_message (isMessage_closeRequest _ _))
    · exact keepsBalanced_of_same rfl fun prebuilt => prebuilt_of_disconnected prebuilt rfl rfl rfl
  publishMessage _ _ _ _ _ _ _ := fun _ before =>
    tallied_publishMessage (fun s event _ => keepsBalanced_apply s event)
      (fun _ businessMessage _ _ later => tallies_business businessMessage (later before)) before
  sendCommitOffset _ _ _ _ _ _ _ frame _ := fun _ before =>
    tallied_sendCombinedMessage (fun s event _ => keepsBalanced_apply s event)
      (fun _ later => tallies_business frame (later before)) before
  sendKeepalive _ := tallied_sendKeepalive (fun s event _ => keepsBalanced_apply s event)
    tallies_keepalive fun _ => keepsBalanced_aside rfl rfl rfl

theorem isMessage_commitRequest {topic clientId : StdString} {timestamp stamp : Nat}
    {frame : List UInt8} (built : buildCommitMessage topic clientId timestamp stamp = .ok frame) :
    isMessage frame = true := by
  unfold buildCommitMessage at built
  rw [subscriptionsFrame_eq_ok built]
  exact isMessage_of_schema (ofSchema_topicFrame _ _ _ _ _ _ _)

theorem balanced_take (step : Step) (c : Impl) (before : Balanced c.sessionManager.session) :
    Balanced (take step c).sessionManager.session := by
  obtain ⟨w, operation⟩ := step
  by_cases request : ∃ topic, operation = .sendCommitRequest topic
  · obtain ⟨topic, rfl⟩ := request
    have sent : Within (Holds KeepsBalanced) (sendCommitRequest w topic) := by
      refine has_sendCommitRequest (basis_holds respects_keepsBalanced) fun _ _ _ _ frame built => ?_
      refine holds_callSession respects_keepsBalanced ?_
      exact tallied_sendRawMessage (fun s event _ => keepsBalanced_apply s event)
        (tallies_message (isMessage_commitRequest built))
    exact Programs.has_drop Programs.closed_within sent c before
  · exact holds_perform respects_keepsBalanced (fun topic same => request ⟨topic, same⟩) c before

theorem balanced_initial (correlationId : Int) : Balanced { correlationId := correlationId } :=
  ⟨prebuilt_initial correlationId, rfl, rfl⟩

/-- In every state that a client can reach, however its session was connected, lost and found again,
the session manager has counted exactly the frames that the publication has accepted: each but the
connect requests once, the keepalives apart from the rest. -/
theorem session_counters_exact (config : ClusterClientConfig) (generated : StdString)
    (steps : List Step) :
    let s := (reached config generated steps).sessionManager.session
    s.stats.messagesSent = (acceptedFrames s.offered).countP isMessage ∧
      s.stats.keepalivesSent = (acceptedFrames s.offered).countP isKeepalive ∧
      (acceptedFrames s.offered).length = s.stats.messagesSent + s.stats.keepalivesSent +
        (acceptedFrames s.offered).countP isConnectRequest := by
  have balanced : Balanced (reached config generated steps).sessionManager.session :=
    invariant_of_steps (fun c : Impl => Balanced c.sessionManager.session) (balanced_initial 0)
      fun c step => balanced_take step c
  refine ⟨balanced.messages, balanced.keepalives, ?_⟩
  rw [length_eq_kinds, balanced.messages, balanced.keepalives]

end Runs

end AeronClusterClient.Client.OfferLedger
