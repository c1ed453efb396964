/- module: AeronClusterClient/Client/Envelopes
   source: src/cluster_client.cpp (send_commit_request, send_commit_offset, publish_*),
   src/session_manager.cpp (send_raw_message, send_combined_message), src/commit_manager.cpp
   digest: Exactly which runs of a client offer nothing but control frames and enveloped business frames. -/

import AeronClusterClient.Client.Operations
import AeronClusterClient.Client.ResumeOnConnect
import AeronClusterClient.Session.CloseRequest
import AeronClusterClient.Session.PrebuiltFrames

/-!
The cluster takes two kinds of frames: those of its own session protocol, and
business frames behind a session message header. Every operation of the client
keeps to this but one: a commit request goes out through `send_raw_message`.
-/

set_option autoImplicit false
set_option relaxedAutoImplicit false

namespace AeronClusterClient.Client.Envelopes

open Lib.Action Lib.LittleEndian Lib.Runs
open Client.State Client.Frames Client.SessionEffects Client.Operations
open Sbe.GeneratedCodec Sbe.Encoder
open Session.Manager (SessionState SessionStats Machine SessionM sendRawMessage sendCombinedMessage)
open Session.Updates (Control Admits On apply_kept within_connect within_disconnect
  on_publishMessage on_sendCombinedMessage within_sendKeepalive)
open Session.PrebuiltFrames Session.CloseRequest
open Session.Availability (afterLook run_look)
open Commit.Manager
open Config (ClusterClientConfig)
open Json (Jsoncpp)
open Text (StdString ascii)

section Frames

/-- The header at the front of a frame names the given schema. -/
def OfSchema (schemaId : Nat) (frame : List UInt8) : Prop :=
  8 ≤ frame.length ∧ (MessageHeader.ofBytes (frame.take 8)).schemaId = schemaId

/-- The business frames of the client, as its two encoders return them. -/
inductive Business : List UInt8 → Prop
  | topicMessage {topic messageType messageId payload headers : StdString} {now : Int}
      {frame : List UInt8} :
      createTopicMessage topic messageType messageId payload headers now = .ok frame → Business frame
  | commitOffset {json : Jsoncpp} {clientId : StdString} {offset : CommitOffset}
      {timestamp stamp : Nat} {frame : List UInt8} :
      buildCommitOffsetMessage json clientId offset timestamp stamp = .ok frame → Business frame

/-- What the cluster takes: a control frame of its own schema, or one business frame of schema 1
behind the session message header. -/
inductive Enveloped : List UInt8 → Prop
  | control {frame : List UInt8} : Control frame → OfSchema 111 frame → Enveloped frame
  | business (leadershipTermId sessionId : Int) {frame : List UInt8} :
      Business frame → OfSchema 1 frame → Enveloped (sessionHeader leadershipTermId sessionId ++ frame)

theorem ofSchema_append {header : MessageHeader} (rest : List UInt8)
    (blockLength : header.blockLength < 65536) (templateId : header.templateId < 65536)
    (schemaId : header.schemaId < 65536) (version : header.version < 65536) :
    OfSchema header.schemaId (header.bytes ++ rest) := by
  have eight := header.length_bytes
  refine ⟨by simp [eight], ?_⟩
  rw [List.take_append_of_le_length eight.ge, ← eight, List.take_length,
    MessageHeader.ofBytes_bytes blockLength templateId schemaId version]

theorem ofSchema_of_control {frame : List UInt8} (control : Control frame) :
    OfSchema 111 frame := by
  cases control with
  | connectRequest =>
      unfold encodeSessionConnectRequest
      simp only [List.append_assoc]
      exact ofSchema_append _ (by decide) (by decide) (by decide) (by decide)
  | closeRequest =>
      unfold encodeSessionCloseRequest sessionFrame
      simp only [List.append_assoc]
      exact ofSchema_append _ (by decide) (by decide) (by decide) (by decide)
  | keepAlive =>
      unfold encodeSessionKeepAlive sessionFrame
      simp only [List.append_assoc]
      exact ofSchema_append _ (by decide) (by decide) (by decide) (by decide)

theorem ofSchema_topicFrame (timestamp sequenceNumber : Nat)
    (topic messageType uuid payload headers : StdString) :
    OfSchema 1 (topicFrame timestamp sequenceNumber topic messageType uuid payload headers) := by
  unfold topicFrame
  simp only [List.append_assoc]
  exact ofSchema_append _ (by decide) (by decide) (by decide) (by decide)

theorem OfSchema.rdrop {schemaId n : Nat} {frame : List UInt8} (schema : OfSchema schemaId frame)
    (long : 8 + n ≤ frame.length) : OfSchema schemaId (frame.rdrop n) := by
  refine ⟨by simp [List.rdrop]; omega, ?_⟩
  rw [List.rdrop, List.take_take, Nat.min_eq_left (by omega)]
  exact schema.2

theorem ofSchema_of_business {frame : List UInt8} (business : Business frame) :
    OfSchema 1 frame := by
  cases business with
  | topicMessage created =>
      rw [createTopicMessage_eq (fieldsFit_of_createTopicMessage created)] at created
      cases created
      refine OfSchema.rdrop (ofSchema_topicFrame _ _ _ _ _ _ _) ?_
      rw [length_topicFrame]
      omega
  | commitOffset built =>
      unfold buildCommitOffsetMessage at built
      split at built
      · rw [commitOffsetLiteFrame_eq_ok built]
        unfold commitOffsetLiteBytes
        simp only [List.append_assoc]
        exact ofSchema_append _ (by decide) (by decide) (by decide) (by decide)
      · rw [subscriptionsFrame_eq_ok built]
        exact ofSchema_topicFrame _ _ _ _ _ _ _

theorem Enveloped.not_bare {frame : List UInt8} (enveloped : Enveloped frame) :
    ¬ OfSchema 1 frame := by
  have other : OfSchema 111 frame := by
    cases enveloped with
    | control _ schema => exact schema
    | business leadershipTermId sessionId =>
        unfold sessionHeader
        simp only [List.append_assoc]
        exact ofSchema_append _ (by decide) (by decide) (by decide) (by decide)
  intro bare
  exact absurd (other.2.symm.trans bare.2) (by decide)

end Frames

section Sessions

def frames (s : SessionState) : List (List UInt8) := s.offered.map Prod.fst

/-- Every frame offered so far is one that the cluster takes, and the buffers for the next ones
have the shape of their frames. -/
structure Sealed (s : SessionState) : Prop where
  prebuilt : Prebuilt s
  enveloped : ∀ frame ∈ frames s, Enveloped frame

def KeepsSealed (s after : SessionState) : Prop := Sealed s → Sealed after

instance : IsPreorder SessionState KeepsSealed where
  refl _ := id
  trans _ _ _ first rest := rest ∘ first

theorem keepsSealed_of_same {s after : SessionState} (offered : after.offered = s.offered)
    (kept : KeepsPrebuilt s after) : KeepsSealed s after := by
  refine fun before => ⟨kept before.prebuilt, ?_⟩
  rw [frames, offered]
  exact before.enveloped

theorem keepsSealed_append (s : SessionState) (result : Int) {frame : List UInt8}
    (enveloped : Enveloped frame) :
    KeepsSealed s { s with offered := s.offered ++ [(frame, result)] } := by
  refine fun before => ⟨prebuilt_of_cached before.prebuilt rfl id, fun other offered => ?_⟩
  rw [frames, List.map_append, List.mem_append] at offered
  rcases offered with earlier | now
  · exact before.enveloped other earlier
  · rw [List.mem_singleton.mp now]
    exact enveloped

theorem admits_keepsSealed : Admits KeepsSealed where
  event s event := keepsSealed_of_same (apply_kept s event).1 (prebuilt_apply event)
  control s _ result control :=
    keepsSealed_append s result (.control control (ofSchema_of_control control))
  sent s := keepsSealed_of_same rfl (admits_keepsPrebuilt.sent s)
  accepted s := keepsSealed_of_same rfl (admits_keepsPrebuilt.accepted s)
  publication s publication := keepsSealed_of_same rfl (admits_keepsPrebuilt.publication s publication)
  leader s memberId := keepsSealed_of_same rfl (admits_keepsPrebuilt.leader s memberId)
  redirect s := keepsSealed_of_same rfl (admits_keepsPrebuilt.redirect s)
  thread s := keepsSealed_of_same rfl (admits_keepsPrebuilt.thread s)

theorem keepsSealed_business {frame : List UInt8} (business : Business frame) {t : SessionState}
    (prepared : Sealed t) (s : SessionState) (result : Int) :
    KeepsSealed s { s with offered := s.offered ++ [(t.sessionHeaderBuffer ++ frame, result)] } := by
  obtain ⟨leadershipTermId, sessionId, shape⟩ := prepared.prebuilt.header
  rw [shape]
  exact keepsSealed_append s result (.business _ _ business (ofSchema_of_business business))

/-- Everything a client asks of its session manager keeps a session sealed, raw sends apart. -/
theorem respects_keepsSealed : Respects KeepsSealed where
  event := admits_keepsSealed.event
  taken _ := keepsSealed_of_same rfl fun prebuilt => prebuilt_of_cached prebuilt rfl id
  connect _ _ := within_connect admits_keepsSealed.connects
  disconnect _ _ := within_disconnect admits_keepsSealed.everywhere fun s =>
    keepsSealed_of_same rfl fun prebuilt => prebuilt_of_disconnected prebuilt rfl rfl rfl
  publishMessage _ _ _ _ _ _ _ := fun m before =>
    on_publishMessage admits_keepsSealed.everywhere.event admits_keepsSealed.sent
      (fun _ _ created _ later => keepsSealed_business (.topicMessage created) (later before)) before
  sendCommitOffset _ _ _ _ _ _ _ _ built := fun m before =>
    on_sendCombinedMessage admits_keepsSealed.everywhere.event admits_keepsSealed.sent
      (fun _ later => keepsSealed_business (.commitOffset built) (later before)) before
  sendKeepalive _ := by
    have counted (s : SessionState) (stats : SessionStats) :
        KeepsSealed s { s with stats := stats } :=
      keepsSealed_of_same rfl fun prebuilt => prebuilt_of_cached prebuilt rfl id
    refine within_sendKeepalive admits_keepsSealed.everywhere.event (fun s => ?_) (fun s => counted s _) ?_
    · exact keepsSealed_of_same rfl fun prebuilt => prebuilt_of_cached prebuilt rfl id
    · intro s result before
      obtain ⟨leadershipTermId, sessionId, shape⟩ := before.prebuilt.keepalive
      have control := Control.keepAlive leadershipTermId sessionId
      rw [← shape] at control
      exact keepsSealed_append s result (.control control (ofSchema_of_control control)) before

theorem respects_grows : Respects Grows where
  event := admits_grows.event
  taken _ := List.prefix_rfl
  connect _ _ := within_connect admits_grows.connects
  disconnect _ _ := within_disconnect admits_grows.everywhere fun _ => List.prefix_rfl
  publishMessage _ _ _ _ _ _ _ := fun _ =>
    on_publishMessage admits_grows.everywhere.event admits_grows.sent fun _ _ _ _ _ _ _ =>
      List.prefix_append _ _
  sendCommitOffset _ _ _ _ _ _ _ _ _ := fun _ =>
    on_sendCombinedMessage admits_grows.everywhere.event admits_grows.sent fun _ _ _ _ =>
      List.prefix_append _ _
  sendKeepalive _ := within_sendKeepalive admits_grows.everywhere.event (fun _ => List.prefix_rfl)
    (fun _ => List.prefix_rfl) fun _ _ => List.prefix_append _ _

end Sessions

section CommitRequests

variable {w : World} {topic : StdString} {c : Impl}

/-- The session manager as a commit request finds it: two readings of the clock have been taken. -/
def asked (c : Impl) : Machine :=
  { c.sessionManager with looks := c.sessionManager.looks + 2 }

def requestFrame (w : World) (topic : StdString) (c : Impl) : Except StdString (List UInt8) :=
  buildCommitMessage topic c.config.clientId (w.nowNanos c.sessionManager.looks)
    (w.nowNanos (c.sessionManager.looks + 1))

/-- A commit request would reach the publication: no driver error is recorded, the client is
connected, the frame fits its buffer, the session is still connected when the frame is sent,
and Aeron answers the offer. -/
structure PassesGuards (w : World) (topic : StdString) (c : Impl) : Prop where
  healthy : c.fatalErrorDetected = false
  connected : c.isConnected = true
  built : ∃ frame, requestFrame w topic c = .ok frame
  found : (afterLook w.session (asked c)).session.isConnected = true
  answered : ∃ result, w.session.offer ((asked c).looks + 2) = .ok result

theorem sendCommitRequest_refused
    (refused : ¬ (c.fatalErrorDetected = false ∧ c.isConnected = true)) :
    finalState (sendCommitRequest w topic) c = c := by
  unfold sendCommitRequest
  cases healthy : c.fatalErrorDetected with
  | true =>
      obtain ⟨what, run⟩ := throwIfDriverTerminated_of_fatal healthy
      exact finalState_bind_of_error run
  | false =>
      have unconnected : c.isConnected = false := by
        cases connected : c.isConnected with
        | true => exact absurd ⟨healthy, connected⟩ refused
        | false => rfl
      have read : (get : ClientM Impl).run c = .ok c c := rfl
      rw [finalState_bind_of_ok (throwIfDriverTerminated_of_healthy healthy),
        finalState_bind_of_ok read, unconnected]
      rfl

/-- Behind the first two guards, a request is the encoding of its frame and its raw send. -/
theorem sendCommitRequest_passed (healthy : c.fatalErrorDetected = false)
    (connected : c.isConnected = true) :
    finalState (sendCommitRequest w topic) c = finalState (do
      let frame ← orThrow (requestFrame w topic c)
      modify (fun c => { c with handed := c.handed ++ [.raw frame] })
      callSession w (sendRawMessage c.config w.session frame)) { c with sessionManager := asked c } := by
  have read : (get : ClientM Impl).run c = .ok c c := rfl
  have timestamp : (answer w.nowNanos).run c = .ok (w.nowNanos c.sessionManager.looks)
      { c with sessionManager.looks := c.sessionManager.looks + 1 } := rfl
  have stamp : (answer w.nowNanos).run { c with sessionManager.looks := c.sessionManager.looks + 1 } =
      .ok (w.nowNanos (c.sessionManager.looks + 1)) { c with sessionManager := asked c } := rfl
  unfold sendCommitRequest
  rw [finalState_bind_of_ok (throwIfDriverTerminated_of_healthy healthy),
    finalState_bind_of_ok read, connected, if_neg (by decide), finalState_bind_of_ok timestamp,
    finalState_bind_of_ok stamp]
  rfl

theorem sendRawMessage_of_thrown {config : ClusterClientConfig} {world : Session.Manager.World}
    {frame : List UInt8} {m : Machine} {what : StdString}
    (thrown : world.offer (m.looks + 2) = .error what)
    (connected : (afterLook world m).session.isConnected = true) :
    finalState (sendRawMessage config world frame) m = afterLook world (afterLook world m) := by
  have positive : 0 < Session.Manager.effectivePublishRetryAttempts config :=
    effectivePublishRetryAttempts_pos
  obtain ⟨attempts, some⟩ := Nat.exists_eq_add_one_of_ne_zero positive.ne'
  have offered : (Session.Manager.offer world frame).run (afterLook world m) =
      .error what (afterLook world (afterLook world m)) := by
    unfold Session.Manager.offer Session.Manager.offerBuffer
    rw [EStateM.run_bind, run_look]
    dsimp only
    rw [EStateM.run_bind, EStateM.run_get]
    dsimp only
    have asked : world.offer (afterLook world (afterLook world m)).looks = .error what := thrown
    rw [EStateM.run_bind, ofExcept_eq_error.mpr ⟨asked, rfl⟩]
  unfold sendRawMessage
  rw [finalState_bind_of_ok run_look, connected, if_neg (by decide), finalState_tryCatch_pure, some]
  unfold Session.Manager.offerLoop
  exact finalState_bind_of_error offered

theorem sealed_afterLook {world : Session.Manager.World} {m : Machine} (before : Sealed m.session) :
    Sealed (afterLook world m).session :=
  Session.Updates.foldl_apply (fun s event _ => admits_keepsSealed.event s event) m.session before

theorem keepsSealed_sendCommitRequest (refused : ¬ PassesGuards w topic c) :
    Holds KeepsSealed c (finalState (sendCommitRequest w topic) c) := by
  intro before
  by_cases ready : c.fatalErrorDetected = false ∧ c.isConnected = true
  · rw [sendCommitRequest_passed ready.1 ready.2]
    cases built : requestFrame w topic c with
    | error what => exact before
    | ok frame =>
        have rest := holds_callSession_rest (w := w) respects_keepsSealed
          (sendRawMessage c.config w.session frame)
          { c with sessionManager := asked c, handed := c.handed ++ [.raw frame] }
        refine rest ?_
        have once : Sealed (afterLook w.session (asked c)).session := sealed_afterLook before
        cases found : (afterLook w.session (asked c)).session.isConnected with
        | false =>
            change Sealed (finalState (sendRawMessage c.config w.session frame) (asked c)).session
            rw [finalState_of_ok (sendRawMessage_of_unconnected found)]
            exact once
        | true =>
            cases answer : w.session.offer ((asked c).looks + 2) with
            | ok result =>
                exact absurd ⟨ready.1, ready.2, ⟨frame, built⟩, found, ⟨result, answer⟩⟩ refused
            | error what =>
                change Sealed (finalState (sendRawMessage c.config w.session frame) (asked c)).session
                rw [sendRawMessage_of_thrown answer found]
                exact sealed_afterLook once
  · rw [sendCommitRequest_refused ready]
    exact before

theorem mem_frames_of_offered {frame : List UInt8} {m after : Machine}
    (offered : Offered frame m after) : frame ∈ frames after.session := by
  obtain ⟨result, made⟩ := offered
  exact List.mem_map.mpr ⟨_, List.mem_of_mem_drop made, rfl⟩

theorem mem_frames_of_grows {frame : List UInt8} {s after : SessionState} (grows : Grows s after)
    (offered : frame ∈ frames s) : frame ∈ frames after := by
  obtain ⟨offer, made, rfl⟩ := List.mem_map.mp offered
  exact List.mem_map.mpr ⟨offer, grows.subset made, rfl⟩

theorem bare_of_passesGuards (passes : PassesGuards w topic c) : ∃ frame, OfSchema 1 frame ∧
    frame ∈ frames (finalState (sendCommitRequest w topic) c).sessionManager.session := by
  obtain ⟨frame, built⟩ := passes.built
  obtain ⟨result, answered⟩ := passes.answered
  refine ⟨frame, ?_, ?_⟩
  · rw [subscriptionsFrame_eq_ok built]
    exact ofSchema_topicFrame _ _ _ _ _ _ _
  · rw [sendCommitRequest_passed passes.healthy passes.connected, built]
    have rest := holds_callSession_rest (w := w) respects_grows
      (sendRawMessage c.config w.session frame)
      { c with sessionManager := asked c, handed := c.handed ++ [.raw frame] }
    refine mem_frames_of_grows rest ?_
    exact mem_frames_of_offered (m := asked c) (offered_sendRawMessage answered passes.found)

end CommitRequests

section Runs

def RequestsCommit (c : Impl) (step : Step) : Prop :=
  ∃ topic, step.operation = .sendCommitRequest topic ∧ PassesGuards step.world topic c

theorem sealed_take {c : Impl} {step : Step} (before : Sealed c.sessionManager.session)
    (silent : ¬ RequestsCommit c step) : Sealed (take step c).sessionManager.session := by
  obtain ⟨w, operation⟩ := step
  by_cases request : ∃ topic, operation = .sendCommitRequest topic
  · obtain ⟨topic, rfl⟩ := request
    have refused : ¬ PassesGuards w topic c := fun passes => silent ⟨topic, rfl, passes⟩
    unfold take perform
    rw [finalState_bind_pure]
    exact keepsSealed_sendCommitRequest refused before
  · push Not at request
    exact holds_perform respects_keepsSealed request c before

theorem grows_take (step : Step) (c : Impl) :
    Grows c.sessionManager.session (take step c).sessionManager.session := by
  obtain ⟨w, operation⟩ := step
  by_cases request : ∃ topic, operation = .sendCommitRequest topic
  · obtain ⟨topic, rfl⟩ := request
    unfold take perform
    rw [finalState_bind_pure]
    refine holds_sendCommitRequest respects_grows (fun _ _ _ => ?_) topic c
    exact Session.Updates.within_sendRawMessage admits_grows.everywhere.event admits_grows.sent
      fun _ _ => List.prefix_append _ _
  · push Not at request
    exact holds_perform respects_grows request c

theorem mem_frames_stateAfter {frame : List UInt8} {c : Impl} (steps : List Step)
    (offered : frame ∈ frames c.sessionManager.session) :
    frame ∈ frames (stateAfter take c steps).sessionManager.session :=
  invariant_of_steps (fun c : Impl => frame ∈ frames c.sessionManager.session) offered
    fun c step earlier => mem_frames_of_grows (grows_take step c) earlier

theorem bare_take {c : Impl} {step : Step} (requests : RequestsCommit c step) :
    ∃ frame, OfSchema 1 frame ∧ frame ∈ frames (take step c).sessionManager.session := by
  obtain ⟨w, operation⟩ := step
  obtain ⟨topic, rfl, passes⟩ := requests
  unfold take perform
  rw [finalState_bind_pure]
  exact bare_of_passesGuards passes

theorem silent_of_enveloped {c : Impl} {steps : List Step}
    (enveloped : ∀ frame ∈ frames (stateAfter take c steps).sessionManager.session, Enveloped frame) :
    Meets take (fun c step => ¬ RequestsCommit c step) c steps := by
  induction steps generalizing c with
  | nil => trivial
  | cons step steps ih =>
      refine ⟨fun requests => ?_, ih enveloped⟩
      obtain ⟨frame, bare, offered⟩ := bare_take requests
      exact (enveloped frame (mem_frames_stateAfter steps offered)).not_bare bare

/-- A run of a new client offers nothing but control frames and enveloped business frames exactly
when none of its commit requests passes every guard. -/
theorem frames_enveloped_iff (config : ClusterClientConfig) (generated : StdString)
    (steps : List Step) :
    (∀ frame ∈ frames (reached config generated steps).sessionManager.session, Enveloped frame) ↔
      Meets take (fun c step => ¬ RequestsCommit c step) (Impl.construct config generated) steps := by
  constructor
  · exact silent_of_enveloped
  · intro silent
    have initially : Sealed (Impl.construct config generated).sessionManager.session :=
      ⟨prebuilt_initial 0, nofun⟩
    exact (invariant_of_meets (fun c : Impl => Sealed c.sessionManager.session) initially
      (fun _ _ => sealed_take) silent).enveloped

section Sample

def connectStep : Step := ⟨ResumeOnConnect.accepting, .act .connect⟩

def requestStep : Step := ⟨ResumeOnConnect.accepting, .sendCommitRequest (ascii "orders")⟩

def connectedClient : Impl := take connectStep (Impl.construct {} [])

theorem passesGuards_connectedClient :
    PassesGuards ResumeOnConnect.accepting (ascii "orders") connectedClient where
  healthy := by decide +kernel
  connected := by decide +kernel
  built := by
    have fits : (requestFrame ResumeOnConnect.accepting (ascii "orders") connectedClient).isOk = true := by
      decide +kernel
    cases built : requestFrame ResumeOnConnect.accepting (ascii "orders") connectedClient with
    | ok frame => exact ⟨frame, rfl⟩
    | error what =>
        rw [built] at fits
        cases fits
  found := by decide +kernel
  answered := ⟨1, rfl⟩

/-- A commit request of a connected client goes out without an envelope. -/
theorem commit_request_offered_bare :
    ¬ ∀ (config : ClusterClientConfig) (generated : StdString) (steps : List Step),
      ∀ frame ∈ frames (reached config generated steps).sessionManager.session, Enveloped frame := by
  intro claim
  have requests : RequestsCommit connectedClient requestStep :=
    ⟨_, rfl, passesGuards_connectedClient⟩
  obtain ⟨frame, bare, offered⟩ := bare_take requests
  have enveloped := claim {} [] [connectStep, requestStep] frame
  unfold reached stateAfter at enveloped
  rw [List.foldl_cons, List.foldl_cons, List.foldl_nil, ← connectedClient] at enveloped
  exact (enveloped offered).not_bare bare

end Sample

end Runs

end AeronClusterClient.Client.Envelopes
