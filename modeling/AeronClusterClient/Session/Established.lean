/- module: AeronClusterClient/Session/Established
   source: src/session_manager.cpp (connect, try_connect_to_member, handle_session_ok, is_connected)
   digest: Which session a successful connect call reports, and when that session is usable. -/

import AeronClusterClient.Session.Updates

/-!
A connect call waits for `connected_`, which it does not clear before it sends
its request. What the flag and the two ids are when it returns follows from the
notices made since the request was accepted: they are replayed in order over
what the session was at that time.
-/

set_option autoImplicit false
set_option relaxedAutoImplicit false

namespace AeronClusterClient.Session.Established

open Lib.Action Lib.Runs Session.Manager Session.Connect Session.Updates
open Config (ClusterClientConfig)
open Sbe.Parser (ParseResult)

variable {config : ClusterClientConfig} {world : World} {m after : Machine}

section Replay

/-- The flag and the ids that decide whether a session is usable. -/
structure View where
  connected : Bool
  sessionId : Int
  leadershipTermId : Int
  deriving DecidableEq, Repr

def view (s : SessionState) : View := ⟨s.connected, s.sessionId, s.leadershipTermId⟩

/-- What a notice says about the flag and the ids. -/
def replay (v : View) : Notice → View
  | .connectionState connected => { v with connected := connected }
  | .sessionEvent event =>
      if event.eventCode = SESSION_EVENT_OK then ⟨true, event.correlationId, event.leadershipTermId⟩
      else if event.eventCode = SESSION_EVENT_CLOSED then { v with sessionId := -1 }
      else v

/-- The later session is what the notices made in between say. -/
def Follows (s later : SessionState) : Prop :=
  ∃ made, later.notices = s.notices ++ made ∧ view later = made.foldl replay (view s)

instance : IsPreorder SessionState Follows where
  refl s := ⟨[], (List.append_nil _).symm, rfl⟩
  trans s t u := by
    rintro ⟨first, noticed, replayed⟩ ⟨rest, noticed', replayed'⟩
    refine ⟨first ++ rest, ?_, ?_⟩
    · rw [noticed', noticed, List.append_assoc]
    · rw [replayed', replayed, List.foldl_append]

theorem follows_of_same {s later : SessionState} (notices : later.notices = s.notices)
    (same : view later = view s) : Follows s later :=
  ⟨[], by rw [notices, List.append_nil], same⟩

theorem follows_handleSessionEvent (s : SessionState) (event : ParseResult) :
    Follows s (s.handleSessionEvent event) := by
  cases isEvent : event.isSessionEvent with
  | false =>
      rw [handleSessionEvent_of_other s isEvent]
      exact refl_of Follows s
  | true =>
      obtain ⟨handled, handles, same⟩ := handleSessionEvent_handles s isEvent
      rw [same]
      cases handles with
      | ok code =>
          refine ⟨[.connectionState true, .sessionEvent event], List.append_assoc _ _ _, ?_⟩
          simp only [List.foldl_cons, List.foldl_nil, replay, if_pos code]
          rfl
      | redirect code =>
          refine ⟨[.sessionEvent event], rfl, ?_⟩
          simp only [List.foldl_cons, List.foldl_nil, replay, code]
          rfl
      | error code =>
          refine ⟨[.connectionState false, .sessionEvent event], List.append_assoc _ _ _, ?_⟩
          rcases code with code | code <;>
            simp only [List.foldl_cons, List.foldl_nil, replay, code] <;> rfl
      | closed code =>
          refine ⟨[.connectionState false, .sessionEvent event], List.append_assoc _ _ _, ?_⟩
          simp only [List.foldl_cons, List.foldl_nil, replay, code]
          rfl
      | unknown notOk notClosed =>
          refine ⟨[.sessionEvent event], rfl, ?_⟩
          simp only [List.foldl_cons, List.foldl_nil, replay, if_neg notOk, if_neg notClosed]
          rfl

theorem follows_apply (s : SessionState) (event : Event) : Follows s (s.apply event) := by
  cases event with
  | session event => exact follows_handleSessionEvent s event
  | offerFailed result =>
      change Follows s (s.handleOfferFailure result)
      unfold SessionState.handleOfferFailure SessionState.handleConnectionLoss
      dsimp only
      split
      · exact follows_of_same rfl rfl
      · split
        · split
          · exact ⟨[.connectionState false], rfl, rfl⟩
          · exact follows_of_same rfl rfl
        · exact follows_of_same rfl rfl
  | publication connected => exact follows_of_same rfl rfl

theorem admits_follows : Admits Follows where
  event := follows_apply
  control _ _ _ _ := follows_of_same rfl rfl
  sent _ := follows_of_same rfl rfl
  accepted _ := follows_of_same rfl rfl
  publication _ _ := follows_of_same rfl rfl
  leader _ _ := follows_of_same rfl rfl
  redirect _ := follows_of_same rfl rfl
  thread _ := follows_of_same rfl rfl

end Replay

section Requests

def noticesSinceRequest (s : SessionState) : List Notice := s.notices.drop s.noticesAtRequest

/-- A request has been accepted since there were `start` notices, and what the session was then
has only been changed as the notices since say. -/
structure Awaited (start : Nat) (s : SessionState) : Prop where
  begun : start ≤ s.noticesAtRequest
  replayed : ∃ before : SessionState, before.notices.length = s.noticesAtRequest ∧ Follows before s

theorem Awaited.view_eq {start : Nat} {s : SessionState} (awaited : Awaited start s) :
    ∃ before, view s = (noticesSinceRequest s).foldl replay before := by
  obtain ⟨before, mark, made, noticed, replayed⟩ := awaited.replayed
  refine ⟨view before, ?_⟩
  unfold noticesSinceRequest
  rw [noticed, ← mark, List.drop_left, replayed]

theorem awaited_accepted {start : Nat} {s : SessionState} (begun : start ≤ s.notices.length) :
    Awaited start s.requestAccepted :=
  ⟨begun, s, rfl, follows_of_same rfl rfl⟩

/-- Notices are only added, and an awaited session stays awaited. -/
def Keeps (start : Nat) (s later : SessionState) : Prop :=
  s.notices.length ≤ later.notices.length ∧ (Awaited start s → Awaited start later)

instance {start : Nat} : IsPreorder SessionState (Keeps start) where
  refl _ := ⟨le_rfl, id⟩
  trans _ _ _ first rest := ⟨first.1.trans rest.1, rest.2 ∘ first.2⟩

variable {start : Nat}

theorem keeps_of_follows {s later : SessionState} (follows : Follows s later)
    (mark : later.noticesAtRequest = s.noticesAtRequest) : Keeps start s later := by
  constructor
  · obtain ⟨made, noticed, -⟩ := follows
    rw [noticed, List.length_append]
    omega
  · rintro ⟨begun, before, at_request, earlier⟩
    refine ⟨?_, before, ?_, trans_of Follows earlier follows⟩
    · rwa [mark]
    · rwa [mark]

theorem keeps_apply (s : SessionState) (event : Event) : Keeps start s (s.apply event) :=
  keeps_of_follows (follows_apply s event) (apply_kept s event).2

theorem admits_keeps : Admits (Keeps start) where
  event := keeps_apply
  control s _ _ _ := keeps_of_follows (follows_of_same rfl rfl) rfl
  sent s := keeps_of_follows (follows_of_same rfl rfl) rfl
  accepted s := by
    refine ⟨le_rfl, fun ⟨begun, before, mark, made, noticed, _⟩ => awaited_accepted ?_⟩
    rw [noticed, List.length_append]
    omega
  publication s _ := keeps_of_follows (follows_of_same rfl rfl) rfl
  leader s _ := keeps_of_follows (follows_of_same rfl rfl) rfl
  redirect s := keeps_of_follows (follows_of_same rfl rfl) rfl
  thread s := keeps_of_follows (follows_of_same rfl rfl) rfl

end Requests

section Connect

variable {start : Nat} {α β : Type}

/-- A computation that starts with `start` notices or more and succeeds leaves an awaited session. -/
def Wins (start : Nat) (won : α → Bool) (x : SessionM α) : Prop :=
  ∀ ⦃m a after⦄, start ≤ m.session.notices.length → x.run m = .ok a after → won a = true →
    Awaited start after.session

theorem wins_pure {won : α → Bool} {a : α} (lost : won a = false) : Wins start won (pure a) := by
  intro m b after _ run success
  cases run
  rw [lost] at success
  cases success

theorem wins_ite {c : Prop} [Decidable c] {won : α → Bool} {x y : SessionM α}
    (hx : Wins start won x) (hy : Wins start won y) : Wins start won (if c then x else y) := by
  split
  · exact hx
  · exact hy

theorem wins_after {won : β → Bool} {x : SessionM α} {f : α → SessionM β}
    (first : Within (On (Keeps start)) x) (rest : ∀ a, Wins start won (f a)) :
    Wins start won (x >>= f) := by
  intro m b after begun run success
  obtain ⟨a, mid, first_run, rest_run⟩ := bind_eq_ok.mp run
  have grown : m.session.notices.length ≤ mid.session.notices.length := (first.of_ok first_run).1
  exact rest a (begun.trans grown) rest_run success

theorem wins_bind {sent : α → Bool} {won : β → Bool} {x : SessionM α} {f : α → SessionM β}
    (first : Wins start sent x) (grows : Within (On (Keeps start)) x)
    (kept : ∀ a, sent a = true → Within (On (Keeps start)) (f a))
    (rest : ∀ a, sent a = false → Wins start won (f a)) : Wins start won (x >>= f) := by
  intro m b after begun run success
  obtain ⟨a, mid, first_run, rest_run⟩ := bind_eq_ok.mp run
  cases done : sent a with
  | true => exact ((kept a done).of_ok rest_run).2 (first begun first_run done)
  | false =>
      have grown : m.session.notices.length ≤ mid.session.notices.length := (grows.of_ok first_run).1
      exact rest a done (begun.trans grown) rest_run success

theorem wins_tryCatch {x : SessionM Bool} (body : Wins start id x) :
    Wins start id (tryCatch x fun _ => pure false) := by
  intro m won after begun run success
  refine body begun (of_tryCatch_eq_ok (fun e u returned => ?_) run) success
  cases returned
  cases success

theorem wins_sendSessionConnectRequest :
    Wins start id (sendSessionConnectRequest config world) := by
  unfold sendSessionConnectRequest
  refine wins_tryCatch (wins_after (within_look admits_keeps.everywhere.event) fun s => ?_)
  refine wins_after (within_offerBuffer admits_keeps.everywhere.event fun s result => ?_) fun result => ?_
  · exact keeps_of_follows (follows_of_same rfl rfl) rfl
  · refine wins_ite ?_ (wins_after (within_update fun s => keeps_apply s (.offerFailed result))
      fun _ => wins_pure rfl)
    intro m won after begun run _
    cases run
    exact awaited_accepted begun

theorem wins_offerConnectRequest (retries : Nat) :
    Wins start id (offerConnectRequest config world retries) := by
  induction retries with
  | zero => exact wins_pure rfl
  | succ retries ih =>
      unfold offerConnectRequest
      refine wins_bind wins_sendSessionConnectRequest (within_sendSessionConnectRequest admits_keeps.everywhere)
        (fun sent won => ?_) (fun sent lost => ?_)
      · exact within_ite (within_pure _) (within_offerConnectRequest admits_keeps.connects retries)
      · cases lost
        exact ih

/-- A member is connected only after its connect request has been accepted. -/
theorem wins_tryConnectToMember (memberId : Int) :
    Wins start id (tryConnectToMember config world memberId) := by
  have wait (polls : Nat) : Within (On (Keeps start)) (waitForSession world memberId polls) :=
    within_waitForSession admits_keeps.everywhere.event memberId polls
  unfold tryConnectToMember
  refine wins_ite (wins_pure rfl) (wins_tryCatch ?_)
  refine wins_after (within_update fun s => admits_keeps.publication s none) fun _ => ?_
  refine wins_after within_get fun m => wins_after (within_ofExcept _) fun _ => ?_
  refine wins_after within_get fun m => ?_
  refine wins_after (within_waitForPublication admits_keeps.everywhere.event admits_keeps.publication _) fun _ => ?_
  refine wins_after (within_look admits_keeps.everywhere.event) fun s => wins_ite (wins_pure rfl) ?_
  refine wins_bind (wins_offerConnectRequest 20) (within_offerConnectRequest admits_keeps.connects 20)
    (fun sent won => ?_) (fun sent lost => ?_)
  · refine within_ite (within_pure _) ?_
    refine within_bind (within_update fun s => admits_keeps.leader s memberId) fun _ => ?_
    exact within_bind within_get fun m => wait _
  · cases lost
    exact wins_pure rfl

theorem wins_memberLoop (triedMembers : Finset Int) (members : List Int) :
    Wins start (fun made => made.2.2) (memberLoop config world triedMembers members) := by
  induction members generalizing triedMembers with
  | nil => exact wins_pure rfl
  | cons memberId rest ih =>
      unfold memberLoop
      refine wins_ite (ih triedMembers) ?_
      refine wins_after (within_update admits_keeps.redirect) fun _ => ?_
      refine wins_bind (wins_tryConnectToMember memberId)
        (within_tryConnectToMember admits_keeps.connects memberId) (fun sent won => ?_) (fun sent lost => ?_)
      · cases won
        exact within_pure _
      · cases lost
        refine wins_after (within_look admits_keeps.everywhere.event) fun s => wins_ite (wins_pure rfl) ?_
        refine wins_bind (ih _) (within_memberLoop admits_keeps.connects _ _) (fun made won => within_pure _)
          (fun made lost => wins_pure lost)

theorem wins_followRedirect (triedMembers : Finset Int) (redirectTarget : Int) :
    Wins start (fun made => made.2.2) (followRedirect config world triedMembers redirectTarget) := by
  unfold followRedirect
  refine wins_bind (wins_tryConnectToMember _) (within_tryConnectToMember admits_keeps.connects _)
    (fun sent won => ?_) (fun sent lost => ?_)
  · cases won
    exact within_bind (within_update admits_keeps.redirect) fun _ => within_pure _
  · cases lost
    refine wins_after (within_look admits_keeps.everywhere.event) fun s => wins_ite ?_ (wins_pure rfl)
    exact wins_after (within_update admits_keeps.redirect) fun _ => wins_pure rfl

theorem wins_connectAttempt (triedMembers : Finset Int) :
    Wins start (fun made => made.2.2) (connectAttempt config world triedMembers) := by
  unfold connectAttempt
  refine wins_after (within_look admits_keeps.everywhere.event) fun s => wins_ite (wins_followRedirect _ _) ?_
  refine wins_after (within_look admits_keeps.everywhere.event) fun s => wins_ite (wins_pure rfl) ?_
  exact wins_bind (wins_memberLoop _ _) (within_memberLoop admits_keeps.connects _ _)
    (fun made won => within_pure _) (fun made lost => wins_pure lost)

theorem wins_connectLoop (triedMembers : Finset Int) (remaining : Nat) :
    Wins start Prod.snd (connectLoop config world triedMembers remaining) := by
  induction remaining generalizing triedMembers with
  | zero => exact wins_pure rfl
  | succ remaining ih =>
      unfold connectLoop
      refine wins_bind (wins_connectAttempt _) (within_connectAttempt admits_keeps.connects _) ?_ ?_
      · rintro ⟨tried, attempt, connected⟩ won
        change connected = true at won
        rw [won]
        exact within_pure _
      · rintro ⟨tried, attempt, connected⟩ lost
        change connected = false at lost
        rw [lost]
        exact wins_bind (ih _) (within_connectLoop admits_keeps.connects _ _) (fun made won => within_pure _)
          (fun made lost => wins_pure lost)

/-- A successful connect call has had a request accepted, and reports the ids of the session that
it leaves. -/
theorem connect_success {result : SessionConnectionResult} {attempts : List Attempt}
    (run : (connect config world).run m = .ok (result, attempts) after)
    (success : result.success = true) :
    Awaited m.session.notices.length after.session ∧
      result.sessionId = after.session.sessionId ∧
      result.leadershipTermId = after.session.leadershipTermId := by
  unfold connect at run
  obtain ⟨⟨made, won⟩, looped, loop, run⟩ := bind_eq_ok.mp run
  cases won with
  | false =>
      cases run
      cases success
  | true =>
      have awaited : Awaited m.session.notices.length looped.session :=
        wins_connectLoop ∅ _ le_rfl loop rfl
      obtain ⟨s, seen, look_run, run⟩ := bind_eq_ok.mp run
      have kept : On (Keeps m.session.notices.length) looped seen :=
        (within_look admits_keeps.everywhere.event).of_ok look_run
      cases look_run
      cases run
      exact ⟨(admits_keeps.thread _).2 (kept.2 awaited), rfl, rfl⟩

end Connect

section Belonging

/-- The result is that of an ok event handled since the call had its request accepted. -/
def BelongsToCall (m after : Machine) (result : SessionConnectionResult) : Prop :=
  m.session.notices.length ≤ after.session.noticesAtRequest ∧
    ∃ event, .sessionEvent event ∈ noticesSinceRequest after.session ∧
      event.eventCode = SESSION_EVENT_OK ∧ event.correlationId = result.sessionId ∧
      event.leadershipTermId = result.leadershipTermId

/-- Whether the last of the ok and closed events is an ok event. -/
def settled (notices : List Notice) : Bool :=
  notices.foldl (fun opened notice =>
    match notice with
    | .sessionEvent event =>
        if event.eventCode = SESSION_EVENT_OK then true
        else if event.eventCode = SESSION_EVENT_CLOSED then false
        else opened
    | .connectionState _ => opened) false

def okEvent : Notice → Option ParseResult
  | .sessionEvent event => if event.eventCode = SESSION_EVENT_OK then some event else none
  | .connectionState _ => none

def lastOk (notices : List Notice) : Option ParseResult := (notices.filterMap okEvent).getLast?

/-- Some ok event names the session id that a closed event leaves, in the term of the last one. -/
def NamesUnset (notices : List Notice) : Prop :=
  ∃ event, .sessionEvent event ∈ notices ∧ event.eventCode = SESSION_EVENT_OK ∧
    event.correlationId = -1 ∧ (lastOk notices).map (·.leadershipTermId) = some event.leadershipTermId

theorem okEvent_eq_some {notice : Notice} {event : ParseResult} :
    okEvent notice = some event ↔
      notice = .sessionEvent event ∧ event.eventCode = SESSION_EVENT_OK := by
  cases notice with
  | connectionState connected => simp [okEvent]
  | sessionEvent other =>
      simp only [okEvent, Option.ite_none_right_eq_some, Option.some.injEq, Notice.sessionEvent.injEq]
      constructor
      · rintro ⟨code, rfl⟩
        exact ⟨rfl, code⟩
      · rintro ⟨rfl, code⟩
        exact ⟨code, rfl⟩

theorem lastOk_concat (notices : List Notice) (notice : Notice) :
    lastOk (notices ++ [notice]) = (okEvent notice).or (lastOk notices) := by
  unfold lastOk
  cases found : okEvent notice with
  | none => simp [found]
  | some event => simp [found]

theorem ne_ok_of_okEvent {event : ParseResult} (none : okEvent (.sessionEvent event) = none) :
    event.eventCode ≠ SESSION_EVENT_OK := by
  intro code
  rw [okEvent_eq_some.mpr ⟨rfl, code⟩] at none
  cases none

theorem lastOk_eq_some {notices : List Notice} {event : ParseResult} (last : lastOk notices = some event) :
    .sessionEvent event ∈ notices ∧ event.eventCode = SESSION_EVENT_OK := by
  obtain ⟨notice, noticed, ok⟩ := List.mem_filterMap.mp (List.mem_of_getLast? last)
  obtain ⟨rfl, code⟩ := okEvent_eq_some.mp ok
  exact ⟨noticed, code⟩

theorem lastOk_isSome {notices : List Notice} {event : ParseResult}
    (noticed : .sessionEvent event ∈ notices) (code : event.eventCode = SESSION_EVENT_OK) :
    ∃ last, lastOk notices = some last := by
  have made : event ∈ notices.filterMap okEvent :=
    List.mem_filterMap.mpr ⟨_, noticed, okEvent_eq_some.mpr ⟨rfl, code⟩⟩
  exact ⟨_, List.getLast?_eq_some_getLast (List.ne_nil_of_mem made)⟩

theorem lastOk_of_settled {notices : List Notice} (opened : settled notices = true) :
    ∃ last, lastOk notices = some last := by
  induction notices using List.reverseRecOn with
  | nil => cases opened
  | append_singleton notices notice ih =>
      rw [lastOk_concat]
      cases ok : okEvent notice with
      | some event => exact ⟨event, rfl⟩
      | none =>
          refine ih ?_
          simp only [settled, List.foldl_append, List.foldl_cons, List.foldl_nil] at opened
          cases notice with
          | connectionState connected => exact opened
          | sessionEvent event =>
              simp only [if_neg (ne_ok_of_okEvent ok)] at opened
              split at opened
              · cases opened
              · exact opened

theorem replay_of_lastOk {notices : List Notice} {last : ParseResult} (v : View)
    (found : lastOk notices = some last) :
    (notices.foldl replay v).leadershipTermId = last.leadershipTermId ∧
      (notices.foldl replay v).sessionId = if settled notices then last.correlationId else -1 := by
  induction notices using List.reverseRecOn generalizing last with
  | nil => cases found
  | append_singleton notices notice ih =>
      rw [lastOk_concat] at found
      simp only [settled, List.foldl_append, List.foldl_cons, List.foldl_nil]
      cases ok : okEvent notice with
      | some event =>
          rw [ok, Option.some_or] at found
          cases found
          obtain ⟨rfl, code⟩ := okEvent_eq_some.mp ok
          simp [replay, code]
      | none =>
          rw [ok, Option.none_or] at found
          obtain ⟨term, session⟩ := ih found
          cases notice with
          | connectionState connected => exact ⟨term, session⟩
          | sessionEvent event =>
              simp only [replay, if_neg (ne_ok_of_okEvent ok)]
              split
              · exact ⟨term, rfl⟩
              · exact ⟨term, session⟩

/-- Ids that were replayed are those of an ok event exactly when the last of the ok and closed
events is an ok event, but for an ok event that names the unset id. -/
theorem named_iff (notices : List Notice) (v : View) :
    (∃ event, .sessionEvent event ∈ notices ∧ event.eventCode = SESSION_EVENT_OK ∧
        event.correlationId = (notices.foldl replay v).sessionId ∧
        event.leadershipTermId = (notices.foldl replay v).leadershipTermId) ↔
      settled notices = true ∨ NamesUnset notices := by
  constructor
  · rintro ⟨event, noticed, code, session, term⟩
    obtain ⟨last, found⟩ := lastOk_isSome noticed code
    obtain ⟨lastTerm, lastSession⟩ := replay_of_lastOk v found
    cases opened : settled notices with
    | true => exact Or.inl rfl
    | false =>
        rw [opened] at lastSession
        refine Or.inr ⟨event, noticed, code, session.trans lastSession, ?_⟩
        rw [found, term, lastTerm]
        rfl
  · rintro (opened | ⟨event, noticed, code, unset, term⟩)
    · obtain ⟨last, found⟩ := lastOk_of_settled opened
      obtain ⟨lastTerm, lastSession⟩ := replay_of_lastOk v found
      obtain ⟨noticed, code⟩ := lastOk_eq_some found
      rw [opened] at lastSession
      exact ⟨last, noticed, code, lastSession.symm, lastTerm.symm⟩
    · obtain ⟨last, found⟩ := lastOk_isSome noticed code
      obtain ⟨lastTerm, lastSession⟩ := replay_of_lastOk v found
      rw [found, Option.map_some, Option.some.injEq] at term
      cases opened : settled notices with
      | true =>
          obtain ⟨noticed, code⟩ := lastOk_eq_some found
          rw [opened] at lastSession
          exact ⟨last, noticed, code, lastSession.symm, lastTerm.symm⟩
      | false =>
          rw [opened] at lastSession
          exact ⟨event, noticed, code, unset.trans lastSession.symm, by rw [lastTerm, term]⟩

/-- A successful connect call reports the session of an ok event handled since its request
exactly when the last ok or closed event since then is an ok event (or an ok event names the
unset session id). -/
theorem success_belongs_to_call_iff {result : SessionConnectionResult} {attempts : List Attempt}
    (run : (connect config world).run m = .ok (result, attempts) after)
    (success : result.success = true) :
    BelongsToCall m after result ↔
      settled (noticesSinceRequest after.session) = true ∨
        NamesUnset (noticesSinceRequest after.session) := by
  obtain ⟨awaited, session, term⟩ := connect_success run success
  obtain ⟨before, replayed⟩ := awaited.view_eq
  have named := named_iff (noticesSinceRequest after.session) before
  rw [← replayed] at named
  rw [← named]
  unfold BelongsToCall
  rw [session, term]
  exact and_iff_right awaited.begun

section Sample

def sessionEvent (eventCode sessionId leadershipTermId : Int) : ParseResult :=
  { success := true
    templateId := Sbe.Encoder.SESSION_EVENT_TEMPLATE_ID
    schemaId := Sbe.Encoder.CLUSTER_SCHEMA_ID
    eventCode := eventCode
    correlationId := sessionId
    leadershipTermId := leadershipTermId }

def oneMember : ClusterClientConfig := { clusterEndpoints := [Text.ascii "a:9002"] }

/-- The first wait finds the event that the polling thread has handled meanwhile. -/
def answering (event : ParseResult) : World :=
  { events := fun k => if k = 6 then [.session event] else [] }

def answered (event : ParseResult) : Machine :=
  finalState (connect oneMember (answering event)) { session := {} }

def reported (sessionId leadershipTermId : Int) : SessionConnectionResult × List Attempt :=
  ({ success := true
     sessionId := sessionId
     leaderMemberId := 0
     leadershipTermId := leadershipTermId },
    [{ redirectTarget := -1, memberLoop := [⟨0, true⟩] }])

theorem success_belongs_to_call_iff_sample :
    BelongsToCall { session := {} } (answered (sessionEvent SESSION_EVENT_OK 5 1)) (reported 5 1).1 ↔
      settled (noticesSinceRequest (answered (sessionEvent SESSION_EVENT_OK 5 1)).session) = true ∨
        NamesUnset (noticesSinceRequest (answered (sessionEvent SESSION_EVENT_OK 5 1)).session) := by
  have value : returned (connect oneMember (answering (sessionEvent SESSION_EVENT_OK 5 1)))
      { session := {} } = some (reported 5 1) := by
    decide +kernel
  exact success_belongs_to_call_iff (run_of_returned value) rfl

/-- A second connect call finds the flag of the first one set, and reports its session again. -/
theorem second_connect_reports_first_session :
    ¬ ∀ (config : ClusterClientConfig) (world : World) (correlationId : Int) (steps : List Step)
        (after : Machine) (result : SessionConnectionResult) (attempts : List Attempt),
      (connect config world).run (reached config correlationId steps) = .ok (result, attempts) after →
      result.success = true → BelongsToCall (reached config correlationId steps) after result := by
  intro claim
  have value : returned (connect oneMember {})
      (reached oneMember 0 [⟨answering (sessionEvent SESSION_EVENT_OK 5 1), .connect⟩]) =
        some (reported 5 1) := by
    decide +kernel
  obtain ⟨-, event, noticed, -⟩ := claim _ _ _ _ _ _ _ (run_of_returned value) rfl
  have silent : noticesSinceRequest (finalState (connect oneMember {})
      (reached oneMember 0 [⟨answering (sessionEvent SESSION_EVENT_OK 5 1), .connect⟩])).session = [] := by
    decide +kernel
  rw [silent] at noticed
  cases noticed

end Sample

end Belonging

section Usable

/-- The operations of a session in use, without connecting and disconnecting. -/
def Uses : Operation → Prop
  | .connect => False
  | .disconnect => False
  | _ => True

theorem follows_perform {operation : Operation} (uses : Uses operation) :
    Within (On Follows) (perform config world operation) := by
  have append (frame : SessionState → List UInt8) (s : SessionState) (result : Int) :
      Follows s { s with offered := s.offered ++ [(frame s, result)] } := follows_of_same rfl rfl
  have sent := admits_follows.sent
  have drop {x : SessionM Bool} (within : Within (On Follows) x) :
      Within (On Follows) (do let _ ← x) :=
    within_bind within fun _ => within_pure _
  cases operation with
  | event event => exact within_update (Q := Follows) fun s => follows_apply s event
  | connect => exact absurd uses id
  | disconnect => exact absurd uses id
  | sendRawMessage encodedMessage =>
      exact drop (within_sendRawMessage admits_follows.everywhere.event sent (append fun _ => encodedMessage))
  | sendCombinedMessage businessMessage =>
      exact drop fun m => on_sendCombinedMessage admits_follows.everywhere.event sent fun t _ => append fun _ => _
  | publishMessage topic messageType messageId payload headers =>
      exact drop fun m => on_publishMessage admits_follows.everywhere.event sent fun _ _ _ t _ => append fun _ => _
  | sendKeepalive =>
      refine drop (within_sendKeepalive admits_follows.everywhere.event ?_ ?_ (append SessionState.keepaliveBuffer))
      · exact fun s => follows_of_same rfl rfl
      · exact fun s => follows_of_same rfl rfl

theorem follows_stateAfter {steps : List Step} (uses : ∀ step ∈ steps, Uses step.operation) :
    On Follows m (stateAfter (take config) m steps) := by
  induction steps generalizing m with
  | nil => exact refl_of (On Follows) m
  | cons step steps ih =>
      have first : On Follows m (take config step m) :=
        follows_perform (uses step List.mem_cons_self) m
      refine trans_of (On Follows) first (ih fun later among => ?_)
      exact uses later (List.mem_cons_of_mem _ among)

/-- A session that has been established by an ok event, and of which no further event or lost
connection has been noticed since, is usable exactly when the event carried a positive term. -/
theorem usable_iff {result : SessionConnectionResult} {attempts : List Attempt} {event : ParseResult}
    {steps : List Step} (run : (connect config world).run m = .ok (result, attempts) after)
    (success : result.success = true)
    (account : (noticesSinceRequest after.session).getLast? = some (.sessionEvent event))
    (code : event.eventCode = SESSION_EVENT_OK) (session : 0 < event.correlationId)
    (uses : ∀ step ∈ steps, Uses step.operation)
    (quiet : (stateAfter (take config) after steps).session.notices = after.session.notices)
    (publication : (stateAfter (take config) after steps).session.publicationConnected = true) :
    (stateAfter (take config) after steps).session.isConnected = true ↔
      0 < event.leadershipTermId := by
  obtain ⟨awaited, -, -⟩ := connect_success run success
  obtain ⟨before, replayed⟩ := awaited.view_eq
  obtain ⟨earlier, split⟩ := List.getLast?_eq_some_iff.mp account
  have established : view after.session =
      ⟨true, event.correlationId, event.leadershipTermId⟩ := by
    rw [replayed, split, List.foldl_append, List.foldl_cons, List.foldl_nil]
    exact if_pos code
  obtain ⟨made, noticed, later⟩ := follows_stateAfter (m := after) uses
  rw [quiet, List.self_eq_append_right] at noticed
  rw [noticed, List.foldl_nil, established] at later
  obtain ⟨connected, sessionId, term⟩ := View.mk.inj later
  unfold SessionState.isConnected
  rw [connected, publication, sessionId, term]
  simp [session]

section Sample

/-- An ok event of the first session in term 1. -/
theorem usable_iff_sample :
    (stateAfter (take oneMember) (answered (sessionEvent SESSION_EVENT_OK 5 1)) []).session.isConnected =
      true ↔ 0 < (sessionEvent SESSION_EVENT_OK 5 1).leadershipTermId := by
  have value : returned (connect oneMember (answering (sessionEvent SESSION_EVENT_OK 5 1)))
      { session := {} } = some (reported 5 1) := by
    decide +kernel
  have idle : ∀ step ∈ ([] : List Step), Uses step.operation := nofun
  exact usable_iff (run_of_returned value) rfl (by decide +kernel) rfl (by decide) idle rfl
    (by decide +kernel)

/-- The first term of a cluster is term 0: the call succeeds and the session is not usable. -/
theorem first_term_not_usable :
    ¬ ∀ (config : ClusterClientConfig) (world : World) (m after : Machine)
        (result : SessionConnectionResult) (attempts : List Attempt) (event : ParseResult)
        (steps : List Step),
      (connect config world).run m = .ok (result, attempts) after → result.success = true →
      (noticesSinceRequest after.session).getLast? = some (.sessionEvent event) →
      event.eventCode = SESSION_EVENT_OK → 0 ≤ event.leadershipTermId → 0 < event.correlationId →
      (∀ step ∈ steps, Uses step.operation) →
      (stateAfter (take config) after steps).session.notices = after.session.notices →
      (stateAfter (take config) after steps).session.publicationConnected = true →
      (stateAfter (take config) after steps).session.isConnected = true := by
  intro claim
  have value : returned (connect oneMember (answering (sessionEvent SESSION_EVENT_OK 5 0)))
      { session := {} } = some (reported 5 0) := by
    decide +kernel
  have usable := claim _ _ _ _ _ _ (sessionEvent SESSION_EVENT_OK 5 0) [] (run_of_returned value) rfl
    (by decide +kernel) rfl (by decide) (by decide) (fun _ among => by cases among) rfl
    (by decide +kernel)
  revert usable
  decide +kernel

end Sample

end Usable

end AeronClusterClient.Session.Established
