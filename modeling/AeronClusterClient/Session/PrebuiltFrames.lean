/- module: AeronClusterClient/Session/PrebuiltFrames
   source: src/session_manager.cpp (create_*, update_* of the two buffers, session event handlers,
   send_keepalive, send_combined_message), src/sbe_encoder.cpp (encode_session_keep_alive)
   digest: The pre-built buffers hold the current session in every connected state. -/

import AeronClusterClient.Session.Updates

/-!
The two buffers are caches: one handler writes the term and the session into
them, several change the fields they cache. A buffer always has the shape of
its frame for some term and session, and while `connected_` is set these are
the current ones.
-/

set_option autoImplicit false
set_option relaxedAutoImplicit false

namespace AeronClusterClient.Session.PrebuiltFrames

open Lib.Action Lib.Bytes Lib.LittleEndian Lib.Runs
open Sbe.GeneratedCodec Sbe.Encoder Sbe.Parser
open Session.Manager Session.Connect Session.Updates
open Config (ClusterClientConfig)
open Text (StdString)

/-- The session message header: a term, a session and a zero timestamp. -/
def sessionHeader (leadershipTermId sessionId : Int) : List UInt8 :=
  (MessageHeader.mk 24 1 111 8).bytes ++ toBytes 8 (unsigned 8 leadershipTermId) ++
    toBytes 8 (unsigned 8 sessionId) ++ toBytes 8 0

section Buffers

theorem writeInt64LE_append (front slot back : List UInt8) (pos : Nat) (value : Int)
    (here : front.length = pos) (size : slot.length = 8) :
    writeInt64LE (front ++ slot ++ back) pos value =
      front ++ toBytes 8 (unsigned 8 value) ++ back := by
  have room : pos + 8 ≤ (front ++ slot ++ back).length := by
    simp only [List.length_append]
    omega
  unfold writeInt64LE
  rw [foldl_set_eq_overwrite (fun i => byteAt i value) room, map_byteAt]
  subst here
  simp [overwrite, List.append_assoc, List.drop_append, size]

theorem refresh_eq (header : MessageHeader) (back : List UInt8) (oldTerm oldSession : Nat)
    (leadershipTermId sessionId : Int) :
    writeInt64LE (writeInt64LE
        (header.bytes ++ toBytes 8 oldTerm ++ toBytes 8 oldSession ++ back) 8 leadershipTermId)
        16 sessionId =
      header.bytes ++ toBytes 8 (unsigned 8 leadershipTermId) ++
        toBytes 8 (unsigned 8 sessionId) ++ back := by
  have term := writeInt64LE_append header.bytes (toBytes 8 oldTerm) (toBytes 8 oldSession ++ back)
    8 leadershipTermId header.length_bytes (length_toBytes _ _)
  have session := writeInt64LE_append (header.bytes ++ toBytes 8 (unsigned 8 leadershipTermId))
    (toBytes 8 oldSession) back 16 sessionId (by simp) (length_toBytes _ _)
  rw [List.append_assoc _ (toBytes 8 oldSession) back, term, ← List.append_assoc, session]

theorem updateSessionHeader_eq {s : SessionState} {leadershipTermId sessionId : Int}
    (shape : s.sessionHeaderBuffer = sessionHeader leadershipTermId sessionId) :
    s.updateSessionHeader.sessionHeaderBuffer = sessionHeader s.leadershipTermId s.sessionId := by
  unfold SessionState.updateSessionHeader
  dsimp only
  rw [shape, sessionHeader, refresh_eq]
  have zero := writeInt64LE_append ((MessageHeader.mk 24 1 111 8).bytes ++
    toBytes 8 (unsigned 8 s.leadershipTermId) ++ toBytes 8 (unsigned 8 s.sessionId)) (toBytes 8 0) []
    24 0 (by simp [MessageHeader.bytes]) (length_toBytes _ _)
  rw [List.append_nil, List.append_nil] at zero
  exact zero

theorem updateKeepaliveBuffer_eq {s : SessionState} {leadershipTermId sessionId : Int}
    (shape : s.keepaliveBuffer = encodeSessionKeepAlive leadershipTermId sessionId) :
    s.updateKeepaliveBuffer.keepaliveBuffer =
      encodeSessionKeepAlive s.leadershipTermId s.sessionId := by
  have refreshed := refresh_eq
    ⟨16, SESSION_KEEPALIVE_TEMPLATE_ID, CLUSTER_SCHEMA_ID, CLUSTER_SCHEMA_VERSION⟩ []
    (unsigned 8 leadershipTermId) (unsigned 8 sessionId) s.leadershipTermId s.sessionId
  rw [List.append_nil, List.append_nil] at refreshed
  unfold SessionState.updateKeepaliveBuffer
  dsimp only
  rw [shape, encodeSessionKeepAlive, sessionFrame, sessionFrame, refreshed]

theorem createSessionMessageHeaderBuffer_nil :
    createSessionMessageHeaderBuffer [] = sessionHeader 0 0 := by decide +kernel

theorem createKeepaliveBuffer_nil : createKeepaliveBuffer [] = encodeSessionKeepAlive 0 0 := by
  decide +kernel

end Buffers

section Invariant

/-- Both buffers hold the current term and session. -/
structure Current (s : SessionState) : Prop where
  header : s.sessionHeaderBuffer = sessionHeader s.leadershipTermId s.sessionId
  keepalive : s.keepaliveBuffer = encodeSessionKeepAlive s.leadershipTermId s.sessionId

/-- Each buffer has the shape of its frame, and holds the current values while `connected_` is set. -/
structure Prebuilt (s : SessionState) : Prop where
  header : ∃ leadershipTermId sessionId,
    s.sessionHeaderBuffer = sessionHeader leadershipTermId sessionId
  keepalive : ∃ leadershipTermId sessionId,
    s.keepaliveBuffer = encodeSessionKeepAlive leadershipTermId sessionId
  current : s.connected = true → Current s

theorem prebuilt_initial (correlationId : Int) : Prebuilt { correlationId := correlationId } :=
  ⟨⟨0, 0, createSessionMessageHeaderBuffer_nil⟩, ⟨0, 0, createKeepaliveBuffer_nil⟩, nofun⟩

/-- The part of a session that the invariant is about. -/
def cached (s : SessionState) :=
  (s.sessionHeaderBuffer, s.keepaliveBuffer, s.leadershipTermId, s.sessionId)

theorem prebuilt_of_cached {s after : SessionState} (prebuilt : Prebuilt s)
    (same : cached after = cached s) (connected : after.connected = true → s.connected = true) :
    Prebuilt after := by
  simp only [cached, Prod.mk.injEq] at same
  obtain ⟨header, keepalive, term, session⟩ := same
  refine ⟨by rw [header]; exact prebuilt.header, by rw [keepalive]; exact prebuilt.keepalive, ?_⟩
  intro still
  obtain ⟨currentHeader, currentKeepalive⟩ := prebuilt.current (connected still)
  exact ⟨by rw [header, term, session, currentHeader], by rw [keepalive, term, session, currentKeepalive]⟩

theorem prebuilt_of_disconnected {s after : SessionState} (prebuilt : Prebuilt s)
    (header : after.sessionHeaderBuffer = s.sessionHeaderBuffer)
    (keepalive : after.keepaliveBuffer = s.keepaliveBuffer) (lost : after.connected = false) :
    Prebuilt after := by
  refine ⟨by rw [header]; exact prebuilt.header, by rw [keepalive]; exact prebuilt.keepalive, ?_⟩
  intro connected
  rw [lost] at connected
  cases connected

/-- Refreshing both buffers makes them current, whatever values they held before. -/
theorem current_refreshed {s : SessionState} {term session term' session' : Int}
    (header : s.sessionHeaderBuffer = sessionHeader term session)
    (keepalive : s.keepaliveBuffer = encodeSessionKeepAlive term' session') :
    Current s.updateSessionHeader.updateKeepaliveBuffer := by
  have refreshed : Current s.updateSessionHeader.updateKeepaliveBuffer ↔
      s.updateSessionHeader.sessionHeaderBuffer = sessionHeader s.leadershipTermId s.sessionId ∧
        s.updateSessionHeader.updateKeepaliveBuffer.keepaliveBuffer =
          encodeSessionKeepAlive s.leadershipTermId s.sessionId :=
    ⟨fun h => ⟨h.header, h.keepalive⟩, fun h => ⟨h.1, h.2⟩⟩
  exact refreshed.mpr ⟨updateSessionHeader_eq header,
    updateKeepaliveBuffer_eq (s := s.updateSessionHeader) keepalive⟩

theorem prebuilt_of_current {s after : SessionState} (current : Current s)
    (same : cached after = cached s) : Prebuilt after := by
  simp only [cached, Prod.mk.injEq] at same
  obtain ⟨header, keepalive, term, session⟩ := same
  have both : Current after :=
    ⟨by rw [header, term, session, current.header],
      by rw [keepalive, term, session, current.keepalive]⟩
  exact ⟨⟨_, _, both.header⟩, ⟨_, _, both.keepalive⟩, fun _ => both⟩

theorem prebuilt_handleSessionOk {s : SessionState} (result : ParseResult) (prebuilt : Prebuilt s) :
    Prebuilt (s.handleSessionOk result) := by
  obtain ⟨term, session, shape⟩ := prebuilt.header
  obtain ⟨term', session', shape'⟩ := prebuilt.keepalive
  have current := current_refreshed (s := { s with
    sessionId := result.correlationId
    connected := true
    leadershipTermId := result.leadershipTermId
    leaderMemberId := result.leaderMemberId }) shape shape'
  exact prebuilt_of_current current rfl

theorem prebuilt_handleSessionEvent {s : SessionState} (result : ParseResult)
    (prebuilt : Prebuilt s) : Prebuilt (s.handleSessionEvent result) := by
  have counted : Prebuilt (countEvent s) := prebuilt_of_cached prebuilt rfl id
  cases isEvent : result.isSessionEvent with
  | false => rwa [handleSessionEvent_of_other s isEvent]
  | true =>
      obtain ⟨handled, handles, same⟩ := handleSessionEvent_handles s isEvent
      have kept : Prebuilt handled := by
        cases handles with
        | ok => exact prebuilt_handleSessionOk result counted
        | redirect => exact prebuilt_of_cached counted rfl id
        | error => exact prebuilt_of_disconnected counted rfl rfl rfl
        | closed => exact prebuilt_of_disconnected counted rfl rfl rfl
        | unknown => exact counted
      rw [same]
      exact prebuilt_of_cached kept rfl id

theorem prebuilt_handleOfferFailure {s : SessionState} (result : Int) (prebuilt : Prebuilt s) :
    Prebuilt (s.handleOfferFailure result) := by
  unfold SessionState.handleOfferFailure
  dsimp only
  split
  · exact prebuilt_of_cached prebuilt rfl id
  · split
    · unfold SessionState.handleConnectionLoss
      split
      · exact prebuilt_of_disconnected prebuilt rfl rfl rfl
      · exact prebuilt_of_cached prebuilt rfl id
    · exact prebuilt_of_cached prebuilt rfl id

theorem prebuilt_apply {s : SessionState} (event : Event) (prebuilt : Prebuilt s) :
    Prebuilt (s.apply event) := by
  cases event with
  | session result => exact prebuilt_handleSessionEvent result prebuilt
  | offerFailed result => exact prebuilt_handleOfferFailure result prebuilt
  | publication connected => exact prebuilt_of_cached prebuilt rfl id

def KeepsPrebuilt (s after : SessionState) : Prop := Prebuilt s → Prebuilt after

instance : IsPreorder SessionState KeepsPrebuilt where
  refl _ := id
  trans _ _ _ first rest := rest ∘ first

theorem admits_keepsPrebuilt : Admits KeepsPrebuilt where
  event _ event := prebuilt_apply event
  control _ _ _ _ prebuilt := prebuilt_of_cached prebuilt rfl id
  sent _ prebuilt := prebuilt_of_cached prebuilt rfl id
  accepted _ prebuilt := prebuilt_of_cached prebuilt rfl id
  publication _ _ prebuilt := prebuilt_of_cached prebuilt rfl id
  leader _ _ prebuilt := prebuilt_of_cached prebuilt rfl id
  redirect _ prebuilt := prebuilt_of_cached prebuilt rfl id
  thread _ prebuilt := prebuilt_of_cached prebuilt rfl id

end Invariant

section Offers

variable {config : ClusterClientConfig} {world : World} {f : SessionState → List UInt8}

def alone (world : World) : World := { world with events := fun _ => [] }

/-- A computation that offers one buffer, any number of times, and leaves what it holds. -/
def Offering (f : SessionState → List UInt8) (m after : Machine) : Prop :=
  f after.session = f m.session ∧
    ∃ results : List Int, after.session.offered =
      m.session.offered ++ results.map (fun result => (f m.session, result))

instance : IsPreorder Machine (Offering f) where
  refl m := ⟨rfl, [], by simp⟩
  trans _ _ _ := by
    rintro ⟨same, results, first⟩ ⟨same', results', rest⟩
    refine ⟨same'.trans same, results ++ results', ?_⟩
    rw [rest, first, same, List.map_append, List.append_assoc]

theorem offering_of_same {m after : Machine} (buffer : f after.session = f m.session)
    (offered : after.session.offered = m.session.offered) : Offering f m after :=
  ⟨buffer, [], by simpa using offered⟩

theorem offering_look : Within (Offering f) (look (alone world)) :=
  fun _ => offering_of_same rfl rfl

theorem offering_offerBuffer
    (stable : ∀ s offered, f { s with offered := offered } = f s) :
    Within (Offering f) (offerBuffer (alone world) f) := by
  unfold offerBuffer
  refine within_bind offering_look fun _ => within_bind within_get fun m => ?_
  refine within_bind (within_ofExcept _) fun result => within_bind ?_ fun _ => within_pure _
  exact within_modify fun m => ⟨stable _ _, [result], rfl⟩

theorem offering_offerLoop (frame : List UInt8) (attempts : Nat) :
    Within (Offering fun _ => frame) (offerLoop (alone world) frame attempts) := by
  induction attempts with
  | zero => exact within_pure _
  | succ attempts ih =>
      unfold offerLoop
      refine within_bind (offering_offerBuffer fun _ _ => rfl) fun result => within_ite ?_ ?_
      · exact within_bind (within_modify fun _ => offering_of_same rfl rfl) fun _ => within_pure _
      · refine within_bind (within_modify fun m => ?_) fun _ => within_ite (within_pure _) ih
        exact offering_of_same rfl (handleOfferFailure_kept m.session result).1

theorem offering_keepaliveLoop (attempts : Nat) :
    Within (Offering SessionState.keepaliveBuffer) (keepaliveLoop (alone world) attempts) := by
  induction attempts with
  | zero => exact within_pure _
  | succ attempts ih =>
      unfold keepaliveLoop
      refine within_bind (offering_offerBuffer fun _ _ => rfl) fun result => within_ite ?_ ?_
      · exact within_bind (within_modify fun _ => offering_of_same rfl rfl) fun _ => within_pure _
      · refine within_bind (within_modify fun m => ?_) fun _ => within_ite ih (within_pure _)
        obtain ⟨offered, buffer, -⟩ := handleOfferFailure_kept m.session result
        exact offering_of_same buffer offered

theorem offering_countFailedKeepalive :
    Within (Offering SessionState.keepaliveBuffer) countFailedKeepalive := by
  unfold countFailedKeepalive
  exact within_bind (within_modify fun _ => offering_of_same rfl rfl) fun _ => within_pure _

/-- A send offers one frame, and nothing unless the session it starts from is connected. -/
def Sends (frame : List UInt8) (m after : Machine) : Prop :=
  ∃ results : List Int,
    after.session.offered = m.session.offered ++ results.map (fun result => (frame, result)) ∧
      (results ≠ [] → m.session.isConnected = true)

theorem sends_of_silent {frame : List UInt8} {m after : Machine}
    (same : after.session.offered = m.session.offered) : Sends frame m after :=
  ⟨[], by simpa using same, fun some => absurd rfl some⟩

theorem sends_of_offering {m after : Machine} (connected : m.session.isConnected = true)
    (offering : Offering f m after) : Sends (f m.session) m after := by
  obtain ⟨-, results, offered⟩ := offering
  exact ⟨results, offered, fun _ => connected⟩

/-- The machine after a look at which no other thread has acted. -/
def looked (m : Machine) : Machine := { m with looks := m.looks + 1 }

theorem guarded {R : Machine → Prop} (refuses : SessionState → Bool)
    {rest : SessionState → SessionM Bool} {m : Machine} (silent : R (looked m))
    (passes : refuses m.session = false → R (finalState (rest m.session) (looked m))) :
    R (finalState (do
      let s ← look (alone world)
      if refuses s then return false else rest s) m) := by
  change R (finalState (if refuses m.session then pure false else rest m.session) (looked m))
  cases refused : refuses m.session with
  | true => exact silent
  | false => exact passes refused

theorem sends_sendCombinedMessage (businessMessage : List UInt8) (m : Machine) :
    Sends (m.session.sessionHeaderBuffer ++ businessMessage) m
      (finalState (sendCombinedMessage config (alone world) businessMessage) m) := by
  unfold sendCombinedMessage
  refine guarded (fun s => !s.isConnected) (sends_of_silent rfl) fun connected => ?_
  refine guarded (fun s => !s.isConnected) (sends_of_silent rfl) fun _ => ?_
  have offering : Within (Offering fun _ => m.session.sessionHeaderBuffer ++ businessMessage)
      (tryCatch (offerLoop (alone world) (m.session.sessionHeaderBuffer ++ businessMessage)
        (effectivePublishRetryAttempts config)) (fun _ => return false)) :=
    within_tryCatch (offering_offerLoop _ _) fun _ => within_pure _
  have established : m.session.isConnected = true := by
    simpa only [Bool.not_eq_false'] using connected
  exact sends_of_offering (m := looked (looked m)) established (offering _)

theorem sends_sendKeepalive (m : Machine) :
    Sends m.session.keepaliveBuffer m (finalState (sendKeepalive (alone world)) m) := by
  unfold sendKeepalive
  refine guarded (fun s => !s.isConnected || s.leadershipTermId == -1 || s.sessionId == -1)
    (sends_of_silent rfl) fun passes => ?_
  have connected : m.session.isConnected = true := by
    simp only [Bool.or_eq_false_iff, Bool.not_eq_false'] at passes
    exact passes.1.1
  have offering : Within (Offering SessionState.keepaliveBuffer)
      (tryCatch (do if ← keepaliveLoop (alone world) 3 then return true else countFailedKeepalive)
        (fun _ => countFailedKeepalive)) := by
    refine within_tryCatch ?_ fun _ => offering_countFailedKeepalive
    refine within_bind (offering_keepaliveLoop 3) fun sent => within_ite (within_pure _) ?_
    exact offering_countFailedKeepalive
  exact sends_of_offering connected (offering (looked m))

/-- A published message cannot be encoded and nothing is offered, or its encoding is sent combined. -/
def Publishes (topic messageType messageId payload headers : StdString) (m after : Machine) : Prop :=
  after.session.offered = m.session.offered ∨ ∃ now businessMessage,
    createTopicMessage topic messageType messageId payload headers now = .ok businessMessage ∧
      Sends (m.session.sessionHeaderBuffer ++ businessMessage) m after

theorem publishes_publishMessage (topic messageType messageId payload headers : StdString)
    (m : Machine) : Publishes topic messageType messageId payload headers m (finalState
      (publishMessage config (alone world) topic messageType messageId payload headers) m) := by
  unfold publishMessage
  refine guarded (fun s => !s.isConnected) (Or.inl rfl) fun _ => ?_
  change Publishes topic messageType messageId payload headers (looked m) _
  rw [finalState_tryCatch_pure]
  refine within_get_bind (fun t => bind_from ?_ ?_) (looked m)
  · intro what after failed
    obtain ⟨-, rfl⟩ := ofExcept_eq_error.mp failed
    exact Or.inl rfl
  · intro businessMessage after created
    obtain ⟨encoded, rfl⟩ := ofExcept_eq_ok.mp created
    exact Or.inr ⟨_, businessMessage, encoded, sends_sendCombinedMessage businessMessage _⟩

end Offers

section Runs

def offeredSince (m after : Machine) : List (List UInt8) :=
  (after.session.offered.drop m.session.offered.length).map Prod.fst

/-- The frame that a keepalive or a combined message of the current session consists of. -/
def Carries (s : SessionState) (frame : List UInt8) : Operation → Prop
  | .sendKeepalive => frame = encodeSessionKeepAlive s.leadershipTermId s.sessionId
  | .sendCombinedMessage businessMessage =>
      frame = sessionHeader s.leadershipTermId s.sessionId ++ businessMessage
  | .publishMessage topic messageType messageId payload headers => ∃ now businessMessage,
      createTopicMessage topic messageType messageId payload headers now = .ok businessMessage ∧
        frame = sessionHeader s.leadershipTermId s.sessionId ++ businessMessage
  | _ => True

/-- While the session is connected the two buffers are the frames of the current session, and
whatever is sent next carries it. -/
structure UpToDate (config : ClusterClientConfig) (m : Machine) : Prop where
  keepaliveBuffer : m.session.isConnected = true → m.session.keepaliveBuffer =
    encodeSessionKeepAlive m.session.leadershipTermId m.session.sessionId
  sessionHeaderBuffer : m.session.isConnected = true → m.session.sessionHeaderBuffer =
    sessionHeader m.session.leadershipTermId m.session.sessionId
  offered : ∀ world operation, ∀ frame ∈ offeredSince m (take config ⟨alone world, operation⟩ m),
    Carries m.session frame operation

variable {config : ClusterClientConfig} {world : World}

theorem keepsPrebuilt_perform (operation : Operation) :
    Within (On KeepsPrebuilt) (perform config world operation) := by
  have admits := admits_keepsPrebuilt
  have append (frame : SessionState → List UInt8) (s : SessionState) (result : Int) :
      KeepsPrebuilt s { s with offered := s.offered ++ [(frame s, result)] } :=
    fun prebuilt => prebuilt_of_cached prebuilt rfl id
  have drop {x : SessionM Bool} (within : Within (On KeepsPrebuilt) x) :
      Within (On KeepsPrebuilt) (do let _ ← x) :=
    within_bind within fun _ => within_pure _
  cases operation with
  | event event => exact within_update (Q := KeepsPrebuilt) fun s => prebuilt_apply event
  | connect => exact within_bind (within_connect admits.connects) fun _ => within_pure _
  | disconnect =>
      refine within_disconnect admits.everywhere fun s prebuilt => ?_
      exact prebuilt_of_disconnected prebuilt rfl rfl rfl
  | sendRawMessage encodedMessage =>
      exact drop (within_sendRawMessage admits.everywhere.event admits.sent (append fun _ => encodedMessage))
  | sendCombinedMessage businessMessage =>
      exact drop fun m =>
        on_sendCombinedMessage admits.everywhere.event admits.sent fun t _ => append fun _ => _
  | publishMessage topic messageType messageId payload headers =>
      exact drop fun m =>
        on_publishMessage admits.everywhere.event admits.sent fun _ _ _ t _ => append fun _ => _
  | sendKeepalive =>
      refine drop (within_sendKeepalive admits.everywhere.event ?_ ?_ (append SessionState.keepaliveBuffer))
      · exact fun s prebuilt => prebuilt_of_cached prebuilt rfl id
      · exact fun s prebuilt => prebuilt_of_cached prebuilt rfl id

theorem prebuilt_reached (correlationId : Int) (steps : List Step) :
    Prebuilt (reached config correlationId steps).session := by
  refine invariant_of_steps (fun m : Machine => Prebuilt m.session) (prebuilt_initial correlationId) ?_
  exact fun m step prebuilt => keepsPrebuilt_perform step.operation m prebuilt

theorem offeredSince_of_sends {frame : List UInt8} {m after : Machine} (sends : Sends frame m after)
    {new : List UInt8} (offered : new ∈ offeredSince m after) :
    new = frame ∧ m.session.isConnected = true := by
  obtain ⟨results, record, connected⟩ := sends
  unfold offeredSince at offered
  rw [record, List.drop_left, List.map_map, List.mem_map] at offered
  obtain ⟨result, made, rfl⟩ := offered
  exact ⟨rfl, connected (List.ne_nil_of_mem made)⟩

theorem not_offeredSince_of_same {m after : Machine}
    (same : after.session.offered = m.session.offered) (frame : List UInt8) :
    frame ∉ offeredSince m after := by
  unfold offeredSince
  rw [same, List.drop_length]
  exact List.not_mem_nil

theorem upToDate_of_prebuilt {m : Machine} (prebuilt : Prebuilt m.session) : UpToDate config m := by
  have current (connected : m.session.isConnected = true) : Current m.session := by
    apply prebuilt.current
    simp only [SessionState.isConnected, Bool.and_eq_true] at connected
    exact connected.1.1.1
  refine ⟨fun connected => (current connected).keepalive, fun connected => (current connected).header,
    fun world operation frame offered => ?_⟩
  cases operation with
  | sendKeepalive =>
      have sends : Sends m.session.keepaliveBuffer m
          (finalState (sendKeepalive (alone world)) m) := sends_sendKeepalive m
      rw [← finalState_bind_pure _ (fun _ => ())] at sends
      obtain ⟨rfl, connected⟩ := offeredSince_of_sends sends offered
      exact (current connected).keepalive
  | sendCombinedMessage businessMessage =>
      have sends : Sends (m.session.sessionHeaderBuffer ++ businessMessage) m
          (finalState (sendCombinedMessage config (alone world) businessMessage) m) :=
        sends_sendCombinedMessage businessMessage m
      rw [← finalState_bind_pure _ (fun _ => ())] at sends
      obtain ⟨rfl, connected⟩ := offeredSince_of_sends sends offered
      rw [(current connected).header]
      rfl
  | publishMessage topic messageType messageId payload headers =>
      have publishes : Publishes topic messageType messageId payload headers m (finalState
          (publishMessage config (alone world) topic messageType messageId payload headers) m) :=
        publishes_publishMessage topic messageType messageId payload headers m
      rw [← finalState_bind_pure _ (fun _ => ())] at publishes
      rcases publishes with silent | ⟨now, businessMessage, encoded, sends⟩
      · exact absurd offered (not_offeredSince_of_same silent frame)
      · obtain ⟨rfl, connected⟩ := offeredSince_of_sends sends offered
        rw [(current connected).header]
        exact ⟨now, businessMessage, encoded, rfl⟩
  | _ => trivial

/-- In every state that a session manager can be led to, the pre-built buffers of a connected
session are the frames of its current term and session, and so is every keepalive and the
header of every combined message that is offered next. -/
theorem prebuilt_frames_are_current (config : ClusterClientConfig) (correlationId : Int)
    (steps : List Step) : UpToDate config (reached config correlationId steps) :=
  upToDate_of_prebuilt (prebuilt_reached correlationId steps)

end Runs

end AeronClusterClient.Session.PrebuiltFrames
