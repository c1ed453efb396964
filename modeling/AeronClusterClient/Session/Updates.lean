/- module: AeronClusterClient/Session/Updates
   source: src/session_manager.cpp (connect, disconnect and what they call)
   digest: The updates that connecting and disconnecting are made of, for every relation that admits them. -/

import AeronClusterClient.Lib.Runs
import AeronClusterClient.Session.Connect

/-!
Connecting and disconnecting write the session in a few ways only. A relation
between sessions that admits each of these updates, and the events of other
threads, relates the session before any such call to the one after it. The
operations of a session manager are collected at the end.
-/

set_option autoImplicit false
set_option relaxedAutoImplicit false

namespace AeronClusterClient.Session.Updates

open Lib.Action Lib.Runs Session.Manager Session.Connect
open Sbe.Encoder Sbe.Parser
open Config (ClusterClientConfig)
open Text (StdString)

/-- The frames of the session protocol itself. -/
inductive Control : List UInt8 → Prop
  | connectRequest (correlationId responseStreamId : Int) (responseChannel : StdString)
      (protocolVersion : Int) :
      Control (encodeSessionConnectRequest correlationId responseStreamId responseChannel
        protocolVersion)
  | closeRequest (leadershipTermId clusterSessionId : Int) :
      Control (encodeSessionCloseRequest leadershipTermId clusterSessionId)
  | keepAlive (leadershipTermId clusterSessionId : Int) :
      Control (encodeSessionKeepAlive leadershipTermId clusterSessionId)

/-- What handling a session event does before the callback: nothing for a redirect
but the register, and nothing at all for an unknown code. -/
inductive Handles (s : SessionState) (result : ParseResult) : SessionState → Prop
  | ok : result.eventCode = SESSION_EVENT_OK → Handles s result (s.handleSessionOk result)
  | redirect : result.eventCode = SESSION_EVENT_REDIRECT →
      Handles s result (s.handleSessionRedirect result)
  | error : result.eventCode = SESSION_EVENT_ERROR ∨
      result.eventCode = SESSION_EVENT_AUTHENTICATION_REJECTED →
      Handles s result s.handleSessionError
  | closed : result.eventCode = SESSION_EVENT_CLOSED → Handles s result s.handleSessionClosed
  | unknown : result.eventCode ≠ SESSION_EVENT_OK → result.eventCode ≠ SESSION_EVENT_CLOSED →
      Handles s result s

def countEvent (s : SessionState) : SessionState :=
  { s with stats.sessionEventsReceived := s.stats.sessionEventsReceived + 1 }

theorem handleSessionEvent_handles (s : SessionState) {result : ParseResult}
    (isEvent : result.isSessionEvent = true) : ∃ handled, Handles (countEvent s) result handled ∧
      s.handleSessionEvent result = handled.notify (.sessionEvent result) := by
  unfold SessionState.handleSessionEvent
  rw [isEvent]
  refine ⟨_, ?_, rfl⟩
  split
  · exact .ok ‹_›
  · split
    · exact .redirect ‹_›
    · split
      · exact .error ‹_›
      · split
        · exact .closed ‹_›
        · exact .unknown ‹_› ‹_›

theorem handleSessionEvent_of_other (s : SessionState) {result : ParseResult}
    (other : result.isSessionEvent = false) : s.handleSessionEvent result = s := by
  unfold SessionState.handleSessionEvent
  rw [other]
  rfl

theorem handleOfferFailure_kept (s : SessionState) (result : Int) :
    (s.handleOfferFailure result).offered = s.offered ∧
      (s.handleOfferFailure result).keepaliveBuffer = s.keepaliveBuffer ∧
      (s.handleOfferFailure result).noticesAtRequest = s.noticesAtRequest := by
  unfold SessionState.handleOfferFailure SessionState.handleConnectionLoss
  dsimp only
  split
  · exact ⟨rfl, rfl, rfl⟩
  · split
    · split <;> exact ⟨rfl, rfl, rfl⟩
    · exact ⟨rfl, rfl, rfl⟩

theorem apply_kept (s : SessionState) (event : Event) :
    (s.apply event).offered = s.offered ∧
      (s.apply event).noticesAtRequest = s.noticesAtRequest := by
  cases event with
  | session result =>
      change (s.handleSessionEvent result).offered = _ ∧
        (s.handleSessionEvent result).noticesAtRequest = _
      cases isEvent : result.isSessionEvent with
      | false =>
          rw [handleSessionEvent_of_other s isEvent]
          exact ⟨rfl, rfl⟩
      | true =>
          obtain ⟨handled, handles, same⟩ := handleSessionEvent_handles s isEvent
          rw [same]
          cases handles <;> exact ⟨rfl, rfl⟩
  | offerFailed result =>
      obtain ⟨offered, -, notices⟩ := handleOfferFailure_kept s result
      exact ⟨offered, notices⟩
  | publication connected => exact ⟨rfl, rfl⟩

/-- What happens to a session in a world: the events of other threads, and offers that fail. -/
inductive Happens (world : World) : Event → Prop
  | event (n : Nat) (event : Event) : event ∈ world.events n → Happens world event
  | offer (n : Nat) (result : Int) : world.offer n = .ok result →
      Happens world (.offerFailed result)

/-- A relation between sessions that admits every single write of a connect call, and the sending
of a close request. -/
structure Writes (Q : SessionState → SessionState → Prop) : Prop where
  control : ∀ s frame result, Control frame →
    Q s { s with offered := s.offered ++ [(frame, result)] }
  sent : ∀ s, Q s { s.clearLastPublicationError with stats.messagesSent := s.stats.messagesSent + 1 }
  accepted : ∀ s, Q s s.requestAccepted
  publication : ∀ s publication, Q s { s with ingressPublication := publication }
  leader : ∀ s memberId, Q s { s with leaderMemberId := memberId }
  redirect : ∀ s, Q s { s with redirectedToMemberId := -1 }
  thread : ∀ s, Q s { s with keepaliveThreads := s.keepaliveThreads + 1 }

/-- It also admits every event. -/
structure Admits (Q : SessionState → SessionState → Prop) : Prop extends Writes Q where
  event : ∀ s event, Q s (s.apply event)

/-- It also admits the events of a world. -/
structure AdmitsIn (world : World) (Q : SessionState → SessionState → Prop) : Prop
    extends Writes Q where
  event : ∀ s event, Happens world event → Q s (s.apply event)

theorem Admits.everywhere {Q : SessionState → SessionState → Prop} {world : World}
    (admits : Admits Q) : AdmitsIn world Q :=
  ⟨admits.toWrites, fun s event _ => admits.event s event⟩

/-- A relation between sessions, for computations that also count their looks. -/
def On (Q : SessionState → SessionState → Prop) (m after : Machine) : Prop :=
  Q m.session after.session

instance {Q : SessionState → SessionState → Prop} [IsPreorder SessionState Q] :
    IsPreorder Machine (On Q) where
  refl m := refl_of Q m.session
  trans _ _ _ first rest := trans_of Q first rest

section Programs

variable {Q : SessionState → SessionState → Prop} {config : ClusterClientConfig} {world : World}

theorem within_update {f : SessionState → SessionState} (step : ∀ s, Q s (f s)) :
    Within (On Q) (update f) :=
  within_modify fun m => step m.session

variable [IsPreorder SessionState Q]

theorem foldl_apply {happened : List Event}
    (events : ∀ s, ∀ event ∈ happened, Q s (SessionState.apply s event)) (s : SessionState) :
    Q s (happened.foldl SessionState.apply s) := by
  induction happened generalizing s with
  | nil => exact refl_of Q s
  | cons event happened ih =>
      refine trans_of Q (events s event List.mem_cons_self) (ih ?_ _)
      exact fun s other among => events s other (List.mem_cons_of_mem _ among)

theorem within_look (events : ∀ s event, Happens world event → Q s (s.apply event)) :
    Within (On Q) (look world) :=
  fun m => foldl_apply (fun s event among => events s event (.event m.looks event among)) m.session

theorem within_offerBuffer (events : ∀ s event, Happens world event → Q s (s.apply event))
    {buffer : SessionState → List UInt8}
    (append : ∀ s result, Q s { s with offered := s.offered ++ [(buffer s, result)] }) :
    Within (On Q) (offerBuffer world buffer) := by
  unfold offerBuffer
  refine within_bind (within_look events) fun _ => within_bind within_get fun m => ?_
  refine within_bind (within_ofExcept _) fun result => ?_
  exact within_bind (within_update fun s => append s result) fun _ => within_pure _

/-- An offer of a buffer is admitted, refused or accepted, with what is done when it is accepted. -/
structure Tallies (Q : SessionState → SessionState → Prop) (done : SessionState → SessionState)
    (buffer : SessionState → List UInt8) : Prop where
  accepted : ∀ s result, 0 < result →
    Q s (done { s with offered := s.offered ++ [(buffer s, result)] })
  refused : ∀ s result, result ≤ 0 → Q s { s with offered := s.offered ++ [(buffer s, result)] }

theorem tallies_of_append {done : SessionState → SessionState} {buffer : SessionState → List UInt8}
    (counted : ∀ s, Q s (done s))
    (append : ∀ s result, Q s { s with offered := s.offered ++ [(buffer s, result)] }) :
    Tallies Q done buffer :=
  ⟨fun s result _ => trans_of Q (append s result) (counted _), fun s result _ => append s result⟩

theorem within_offerBuffer_tally {β : Type}
    (events : ∀ s event, Happens world event → Q s (s.apply event))
    {done : SessionState → SessionState} {buffer : SessionState → List UInt8}
    (tallies : Tallies Q done buffer) {rest : Int → SessionM β}
    (accepted : ∀ result, 0 < result → ∀ m,
      finalState (rest result) m = { m with session := done m.session })
    (refused : ∀ result, result ≤ 0 → Happens world (.offerFailed result) →
      Within (On Q) (rest result)) :
    Within (On Q) (offerBuffer world buffer >>= rest) := by
  intro m
  unfold offerBuffer
  simp only [bind_assoc]
  refine bind_from (fun _ _ run => by cases run) ?_
  rintro s mid ⟨⟩
  have looked : On Q m (finalState (look world) m) := within_look events m
  refine trans_of (On Q) looked (bind_from (fun _ _ run => by cases run) ?_)
  rintro read same ⟨⟩
  refine bind_from (fun what after failed => ?_) fun result after answered => ?_
  · obtain ⟨-, rfl⟩ := ofExcept_eq_error.mp failed
    exact refl_of (On Q) _
  · obtain ⟨offered, rfl⟩ := ofExcept_eq_ok.mp answered
    refine bind_from (fun _ _ run => by cases run) ?_
    rintro _ recorded ⟨⟩
    rw [pure_bind]
    by_cases positive : 0 < result
    · rw [accepted result positive]
      exact tallies.accepted _ result positive
    · have none : result ≤ 0 := by omega
      refine trans_of (On Q) ?_ (refused result none (.offer _ result offered) _)
      exact tallies.refused _ result none

section Tallied

def countMessage (s : SessionState) : SessionState :=
  { s.clearLastPublicationError with stats.messagesSent := s.stats.messagesSent + 1 }

def countKeepalive (s : SessionState) : SessionState :=
  { s.clearLastPublicationError with stats.keepalivesSent := s.stats.keepalivesSent + 1 }

variable (events : ∀ s event, Happens world event → Q s (s.apply event))
include events

theorem tallied_offerLoop {frame : List UInt8} (tallies : Tallies Q countMessage fun _ => frame)
    (attempts : Nat) : Within (On Q) (offerLoop world frame attempts) := by
  induction attempts with
  | zero => exact within_pure _
  | succ attempts ih =>
      unfold offerLoop
      refine within_offerBuffer_tally events tallies ?_ fun result none answered => ?_
      · intro result positive m
        rw [if_pos positive]
        rfl
      · rw [if_neg (by omega)]
        refine within_bind (within_update fun s => events s _ answered) fun _ => ?_
        exact within_ite (within_pure _) ih

theorem tallied_sendRawMessage {frame : List UInt8}
    (tallies : Tallies Q countMessage fun _ => frame) :
    Within (On Q) (sendRawMessage config world frame) := by
  unfold sendRawMessage
  refine within_bind (within_look events) fun s => within_ite (within_pure _) ?_
  exact within_tryCatch (tallied_offerLoop events tallies _) fun _ => within_pure _

theorem tallied_sendCombinedMessage {m : Machine} {businessMessage : List UInt8}
    (tallies : ∀ t, Q m.session t →
      Tallies Q countMessage fun _ => t.sessionHeaderBuffer ++ businessMessage) :
    On Q m (finalState (sendCombinedMessage config world businessMessage) m) := by
  unfold sendCombinedMessage
  refine bind_from (fun _ _ run => by cases run) ?_
  rintro s first ⟨⟩
  have toFirst : On Q m (finalState (look world) m) := within_look events m
  split
  · exact toFirst
  · refine trans_of (On Q) toFirst (bind_from (fun _ _ run => by cases run) ?_)
    rintro s second ⟨⟩
    have toSecond : On Q _ (finalState (look world) (finalState (look world) m)) :=
      within_look events _
    split
    · exact toSecond
    · refine trans_of (On Q) toSecond ?_
      rw [finalState_tryCatch_pure]
      exact tallied_offerLoop events (tallies _ (trans_of Q toFirst toSecond)) _ _

theorem tallied_publishMessage {m : Machine} {topic messageType messageId payload headers : StdString}
    (tallies : ∀ now businessMessage,
      createTopicMessage topic messageType messageId payload headers now = .ok businessMessage →
      ∀ t, Q m.session t →
        Tallies Q countMessage fun _ => t.sessionHeaderBuffer ++ businessMessage) :
    On Q m (finalState (publishMessage config world topic messageType messageId payload headers) m) := by
  unfold publishMessage
  refine bind_from (fun _ _ run => by cases run) ?_
  rintro s first ⟨⟩
  have toFirst : On Q m (finalState (look world) m) := within_look events m
  split
  · exact toFirst
  · rw [finalState_tryCatch_pure]
    refine trans_of (On Q) toFirst (bind_from (fun _ _ run => by cases run) ?_)
    rintro t _ ⟨⟩
    refine bind_from ?_ ?_
    · intro what after failed
      obtain ⟨-, rfl⟩ := ofExcept_eq_error.mp failed
      exact refl_of (On Q) _
    · intro businessMessage after created
      obtain ⟨encoded, rfl⟩ := ofExcept_eq_ok.mp created
      refine tallied_sendCombinedMessage events fun u later => ?_
      exact tallies _ businessMessage encoded u (trans_of Q toFirst later)

theorem tallied_keepaliveLoop (tallies : Tallies Q countKeepalive SessionState.keepaliveBuffer)
    (attempts : Nat) : Within (On Q) (keepaliveLoop world attempts) := by
  induction attempts with
  | zero => exact within_pure _
  | succ attempts ih =>
      unfold keepaliveLoop
      refine within_offerBuffer_tally events tallies ?_ fun result none answered => ?_
      · intro result positive m
        rw [if_pos positive]
        rfl
      · rw [if_neg (by omega)]
        refine within_bind (within_update fun s => events s _ answered) fun _ => ?_
        exact within_ite ih (within_pure _)

theorem tallied_sendKeepalive (tallies : Tallies Q countKeepalive SessionState.keepaliveBuffer)
    (failed : ∀ s, Q s { s with stats.keepalivesFailed := s.stats.keepalivesFailed + 1 }) :
    Within (On Q) (sendKeepalive world) := by
  have counted : Within (On Q) countFailedKeepalive :=
    within_bind (within_update failed) fun _ => within_pure _
  unfold sendKeepalive
  refine within_bind (within_look events) fun s => within_ite (within_pure _) ?_
  refine within_tryCatch ?_ fun _ => counted
  refine within_bind (tallied_keepaliveLoop events tallies 3) fun sent => ?_
  exact within_ite (within_pure _) counted

theorem tallied_sendSessionConnectRequest
    (tallies : ∀ correlationId, Tallies Q SessionState.requestAccepted fun _ =>
      encodeSessionConnectRequest correlationId config.egressStreamId config.responseChannel
        config.protocolSemanticVersion) :
    Within (On Q) (sendSessionConnectRequest config world) := by
  unfold sendSessionConnectRequest
  refine within_tryCatch ?_ fun _ => within_pure _
  refine within_bind (within_look events) fun s => ?_
  refine within_offerBuffer_tally events (tallies s.correlationId) ?_ fun result none answered => ?_
  · intro result positive m
    rw [if_pos positive]
    rfl
  · rw [if_neg (by omega)]
    exact within_bind (within_update fun s => events s _ answered) fun _ => within_pure _

omit events in
theorem tallied_sendCloseRequest {frame : List UInt8}
    (sends : Within (On Q) (sendRawMessage config world frame)) (attempts : Nat) :
    Within (On Q) (sendCloseRequest config world frame attempts) := by
  induction attempts with
  | zero => exact within_pure _
  | succ attempts ih =>
      unfold sendCloseRequest
      exact within_bind sends fun sent => within_ite (within_pure _) ih

theorem tallied_disconnect
    (sends : ∀ leadershipTermId sessionId, Within (On Q)
      (sendRawMessage config world (encodeSessionCloseRequest leadershipTermId sessionId)))
    (closed : ∀ s, Q s { s with ingressPublication := none, connected := false, sessionId := -1 }) :
    Within (On Q) (disconnect config world) := by
  unfold disconnect
  have reset := within_update closed
  refine within_bind (within_look events) fun s => within_ite (within_ite ?_ reset) reset
  exact within_bind (tallied_sendCloseRequest (sends _ _) 3) fun _ => reset

end Tallied

theorem within_offerLoop (events : ∀ s event, Happens world event → Q s (s.apply event))
    (sent : ∀ s, Q s { s.clearLastPublicationError with stats.messagesSent := s.stats.messagesSent + 1 })
    {frame : List UInt8}
    (append : ∀ s result, Q s { s with offered := s.offered ++ [(frame, result)] })
    (attempts : Nat) : Within (On Q) (offerLoop world frame attempts) :=
  tallied_offerLoop events (tallies_of_append sent append) attempts

theorem within_sendRawMessage (events : ∀ s event, Happens world event → Q s (s.apply event))
    (sent : ∀ s, Q s { s.clearLastPublicationError with stats.messagesSent := s.stats.messagesSent + 1 })
    {frame : List UInt8}
    (append : ∀ s result, Q s { s with offered := s.offered ++ [(frame, result)] }) :
    Within (On Q) (sendRawMessage config world frame) :=
  tallied_sendRawMessage events (tallies_of_append sent append)

theorem on_sendCombinedMessage {m : Machine} (events : ∀ s event, Happens world event → Q s (s.apply event))
    (sent : ∀ s, Q s { s.clearLastPublicationError with stats.messagesSent := s.stats.messagesSent + 1 })
    {businessMessage : List UInt8}
    (append : ∀ t, Q m.session t → ∀ s result,
      Q s { s with offered := s.offered ++ [(t.sessionHeaderBuffer ++ businessMessage, result)] }) :
    On Q m (finalState (sendCombinedMessage config world businessMessage) m) :=
  tallied_sendCombinedMessage events fun t later => tallies_of_append sent (append t later)

theorem on_publishMessage {m : Machine} (events : ∀ s event, Happens world event → Q s (s.apply event))
    (sent : ∀ s, Q s { s.clearLastPublicationError with stats.messagesSent := s.stats.messagesSent + 1 })
    {topic messageType messageId payload headers : StdString}
    (append : ∀ now businessMessage,
      createTopicMessage topic messageType messageId payload headers now = .ok businessMessage →
      ∀ t, Q m.session t → ∀ s result,
        Q s { s with offered := s.offered ++ [(t.sessionHeaderBuffer ++ businessMessage, result)] }) :
    On Q m (finalState (publishMessage config world topic messageType messageId payload headers) m) :=
  tallied_publishMessage events fun now businessMessage encoded t later =>
    tallies_of_append sent (append now businessMessage encoded t later)

theorem within_sendKeepalive (events : ∀ s event, Happens world event → Q s (s.apply event))
    (sent : ∀ s, Q s
      { s.clearLastPublicationError with stats.keepalivesSent := s.stats.keepalivesSent + 1 })
    (failed : ∀ s, Q s { s with stats.keepalivesFailed := s.stats.keepalivesFailed + 1 })
    (append : ∀ s result, Q s { s with offered := s.offered ++ [(s.keepaliveBuffer, result)] }) :
    Within (On Q) (sendKeepalive world) :=
  tallied_sendKeepalive events (tallies_of_append sent append) failed

theorem within_waitForSession (events : ∀ s event, Happens world event → Q s (s.apply event)) (memberId : Int)
    (polls : Nat) : Within (On Q) (waitForSession world memberId polls) := by
  induction polls with
  | zero => exact within_bind (within_look events) fun s => within_pure _
  | succ polls ih =>
      unfold waitForSession
      refine within_bind (within_look events) fun s => within_ite (within_pure _) ?_
      exact within_bind (within_look events) fun s => within_ite (within_pure _) ih

variable (admits : AdmitsIn world Q)
include admits

theorem within_sendCloseRequest {frame : List UInt8} (control : Control frame) (attempts : Nat) :
    Within (On Q) (sendCloseRequest config world frame attempts) :=
  tallied_sendCloseRequest (within_sendRawMessage admits.event admits.sent
    fun s result => admits.control s frame result control) attempts

theorem within_disconnect
    (closed : ∀ s, Q s { s with ingressPublication := none, connected := false, sessionId := -1 }) :
    Within (On Q) (disconnect config world) :=
  tallied_disconnect admits.event (fun _ _ => within_sendRawMessage admits.event admits.sent
    fun s result => admits.control s _ result (.closeRequest _ _)) closed

theorem within_sendSessionConnectRequest :
    Within (On Q) (sendSessionConnectRequest config world) :=
  tallied_sendSessionConnectRequest admits.event fun _ => tallies_of_append admits.accepted
    fun s result => admits.control s _ result (.connectRequest _ _ _ _)

end Programs

section Connecting

variable {Q : SessionState → SessionState → Prop} {config : ClusterClientConfig} {world : World}

/-- A relation between sessions that admits what a connect call does besides the offers of its
requests, and these requests as a whole. -/
structure Connects (config : ClusterClientConfig) (world : World)
    (Q : SessionState → SessionState → Prop) : Prop where
  event : ∀ s event, Happens world event → Q s (s.apply event)
  request : Within (On Q) (sendSessionConnectRequest config world)
  publication : ∀ s publication, Q s { s with ingressPublication := publication }
  leader : ∀ s memberId, Q s { s with leaderMemberId := memberId }
  redirect : ∀ s, Q s { s with redirectedToMemberId := -1 }
  thread : ∀ s, Q s { s with keepaliveThreads := s.keepaliveThreads + 1 }

variable [IsPreorder SessionState Q]

theorem AdmitsIn.connects (admits : AdmitsIn world Q) : Connects config world Q where
  event := admits.event
  request := within_sendSessionConnectRequest admits
  publication := admits.publication
  leader := admits.leader
  redirect := admits.redirect
  thread := admits.thread

theorem Admits.connects (admits : Admits Q) : Connects config world Q := admits.everywhere.connects

theorem within_waitForPublication (events : ∀ s event, Happens world event → Q s (s.apply event))
    (publication : ∀ s publication, Q s { s with ingressPublication := publication })
    (polls : Nat) : Within (On Q) (waitForPublication world polls) := by
  induction polls with
  | zero => exact within_pure _
  | succ polls ih =>
      unfold waitForPublication
      refine within_bind within_get fun m => ?_
      refine within_bind (within_update fun s => publication s _) fun _ => ?_
      exact within_bind (within_look events) fun s => within_ite (within_pure _) ih

variable (connects : Connects config world Q)
include connects

theorem within_offerConnectRequest (retries : Nat) :
    Within (On Q) (offerConnectRequest config world retries) := by
  induction retries with
  | zero => exact within_pure _
  | succ retries ih =>
      unfold offerConnectRequest
      refine within_bind (connects.request) fun sent => ?_
      exact within_ite (within_pure _) ih

theorem within_tryConnectToMember (memberId : Int) :
    Within (On Q) (tryConnectToMember config world memberId) := by
  unfold tryConnectToMember
  refine within_ite (within_pure _) (within_tryCatch ?_ fun _ => within_pure _)
  refine within_bind (within_update fun s => connects.publication s none) fun _ => ?_
  refine within_bind within_get fun m => within_bind (within_ofExcept _) fun _ => ?_
  refine within_bind within_get fun m => ?_
  refine within_bind (within_waitForPublication connects.event connects.publication _) fun _ => ?_
  refine within_bind (within_look connects.event) fun s => within_ite (within_pure _) ?_
  refine within_bind (within_offerConnectRequest connects 20) fun sent => within_ite (within_pure _) ?_
  refine within_bind (within_update fun s => connects.leader s memberId) fun _ => ?_
  exact within_bind within_get fun m => within_waitForSession connects.event memberId _

theorem within_memberLoop (triedMembers : Finset Int) (members : List Int) :
    Within (On Q) (memberLoop config world triedMembers members) := by
  induction members generalizing triedMembers with
  | nil => exact within_pure _
  | cons memberId rest ih =>
      unfold memberLoop
      refine within_ite (ih triedMembers) ?_
      refine within_bind (within_update connects.redirect) fun _ => ?_
      refine within_bind (within_tryConnectToMember connects memberId) fun connected => ?_
      refine within_ite (within_pure _) ?_
      refine within_bind (within_look connects.event) fun s => within_ite (within_pure _) ?_
      exact within_bind (ih _) fun _ => within_pure _

theorem within_followRedirect (triedMembers : Finset Int) (redirectTarget : Int) :
    Within (On Q) (followRedirect config world triedMembers redirectTarget) := by
  unfold followRedirect
  refine within_bind (within_tryConnectToMember connects _) fun connected => within_ite ?_ ?_
  · exact within_bind (within_update connects.redirect) fun _ => within_pure _
  · refine within_bind (within_look connects.event) fun s => ?_
    refine within_ite ?_ (within_pure _)
    exact within_bind (within_update connects.redirect) fun _ => within_pure _

theorem within_connectAttempt (triedMembers : Finset Int) :
    Within (On Q) (connectAttempt config world triedMembers) := by
  unfold connectAttempt
  refine within_bind (within_look connects.event) fun s => ?_
  refine within_ite (within_followRedirect connects _ _) ?_
  refine within_bind (within_look connects.event) fun s => within_ite (within_pure _) ?_
  exact within_bind (within_memberLoop connects _ _) fun _ => within_pure _

theorem within_connectLoop (triedMembers : Finset Int) (remaining : Nat) :
    Within (On Q) (connectLoop config world triedMembers remaining) := by
  induction remaining generalizing triedMembers with
  | zero => exact within_pure _
  | succ remaining ih =>
      unfold connectLoop
      refine within_bind (within_connectAttempt connects _) fun a => within_ite (within_pure _) ?_
      exact within_bind (ih _) fun _ => within_pure _

/-- Whatever a connect call does, and however other threads interfere, is made of admitted updates. -/
theorem within_connect : Within (On Q) (connect config world) := by
  unfold connect
  refine within_bind (within_connectLoop connects ∅ _) fun a => within_ite ?_ (within_pure _)
  refine within_bind (within_look connects.event) fun s => ?_
  exact within_bind (within_update connects.thread) fun _ => within_pure _

end Connecting

section Operations

inductive Operation
  | event (event : Event)
  | connect
  | disconnect
  | sendRawMessage (encodedMessage : List UInt8)
  | sendCombinedMessage (businessMessage : List UInt8)
  | publishMessage (topic messageType messageId payload headers : StdString)
  | sendKeepalive

structure Step where
  world : World
  operation : Operation

def perform (config : ClusterClientConfig) (world : World) : Operation → SessionM Unit
  | .event event => update (fun s => s.apply event)
  | .connect => do let _ ← connect config world
  | .disconnect => disconnect config world
  | .sendRawMessage encodedMessage => do let _ ← sendRawMessage config world encodedMessage
  | .sendCombinedMessage businessMessage =>
      do let _ ← sendCombinedMessage config world businessMessage
  | .publishMessage topic messageType messageId payload headers =>
      do let _ ← publishMessage config world topic messageType messageId payload headers
  | .sendKeepalive => do let _ ← sendKeepalive world

def take (config : ClusterClientConfig) (step : Step) (m : Machine) : Machine :=
  finalState (perform config step.world step.operation) m

def reached (config : ClusterClientConfig) (correlationId : Int) (steps : List Step) : Machine :=
  stateAfter (take config) { session := { correlationId := correlationId } } steps

end Operations

end AeronClusterClient.Session.Updates
