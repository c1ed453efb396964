/- module: AeronClusterClient/Session/Connect
   source: src/session_manager.cpp (connect, resolve_endpoint_for_member, try_connect_to_member)
   digest: The connect call with its attempts, and what each attempt may try. -/

import AeronClusterClient.Session.Manager
import Mathlib.Data.Finset.Basic

set_option autoImplicit false
set_option relaxedAutoImplicit false

namespace AeronClusterClient.Session.Connect

open Lib.Action Session.Manager
open Config (ClusterClientConfig)
open Text (StdString ascii stdToString find stoi)

/-- An entry `id=endpoint` of the endpoint list; `none` when it has no such form. -/
def explicitEntry (entry : StdString) : Option (Int × StdString) := do
  let pos ← find entry 61
  let id ← stoi (entry.take pos)
  return (id, entry.drop (pos + 1))

/-- The endpoint of a member: an explicit entry first, then the list index. -/
def resolveEndpointForMember (endpoints : List StdString) (memberId : Int) : StdString :=
  match (endpoints.filterMap explicitEntry).find? (fun e => e.1 == memberId) with
  | some (_, endpoint) => endpoint
  | none =>
      if 0 ≤ memberId ∧ memberId < endpoints.length then
        let endpoint := endpoints.getD memberId.toNat []
        if (find endpoint 61).isNone then endpoint else []
      else []

structure SessionConnectionResult where
  success : Bool := false
  sessionId : Int := -1
  leaderMemberId : Int := -1
  leadershipTermId : Int := -1
  errorMessage : StdString := []
  deriving DecidableEq, Repr

/-- A call of `try_connect_to_member` and what it returned. -/
structure Try where
  member : Int
  connected : Bool
  deriving DecidableEq, Repr

/-- What one attempt of the connect loop saw and tried. -/
structure Attempt where
  /-- The redirect register when the attempt started. -/
  redirectTarget : Int
  redirected : List Try := []
  memberLoop : List Try := []
  deriving DecidableEq, Repr

def Attempt.members (attempt : Attempt) : List Int :=
  (attempt.redirected ++ attempt.memberLoop).map Try.member

section Programs

variable (config : ClusterClientConfig) (world : World)

def waitForPublication : Nat → SessionM Unit
  | 0 => return ()
  | polls + 1 => do
      let found := world.findExclusivePublication (← get).looks
      update (fun s => { s with ingressPublication := found })
      if (← look world).publicationConnected then return ()
      waitForPublication polls

def offerConnectRequest : Nat → SessionM Bool
  | 0 => return false
  | retries + 1 => do
      if ← sendSessionConnectRequest config world then return true
      offerConnectRequest retries

def waitForSession (memberId : Int) : Nat → SessionM Bool
  | 0 => return (← look world).connected
  | polls + 1 => do
      if (← look world).connected then return true
      let redirectTarget := (← look world).redirectedToMemberId
      if 0 ≤ redirectTarget ∧ redirectTarget ≠ memberId then return false
      waitForSession memberId polls

def tryConnectToMember (memberId : Int) : SessionM Bool := do
  if resolveEndpointForMember config.clusterEndpoints memberId = [] then return false
  tryCatch (do
      update (fun s => { s with ingressPublication := none })
      ofExcept (world.addExclusivePublication (← get).looks)
      waitForPublication world (world.waits (← get).looks)
      if !(← look world).publicationConnected then return false
      if !(← offerConnectRequest config world 20) then return false
      update (fun s => { s with leaderMemberId := memberId })
      waitForSession world memberId (world.waits (← get).looks))
    (fun _ => return false)

/-- The loop over the members not tried yet; it stops at a connection or at a redirect elsewhere. -/
def memberLoop (triedMembers : Finset Int) :
    List Int → SessionM (Finset Int × List Try × Bool)
  | [] => return (triedMembers, [], false)
  | memberId :: rest => do
      if memberId ∈ triedMembers then memberLoop triedMembers rest
      else
        let triedMembers := insert memberId triedMembers
        update (fun s => { s with redirectedToMemberId := -1 })
        if ← tryConnectToMember config world memberId then
          return (triedMembers, [⟨memberId, true⟩], true)
        let redirectTarget := (← look world).redirectedToMemberId
        if 0 ≤ redirectTarget ∧ redirectTarget ≠ memberId then
          return (triedMembers, [⟨memberId, false⟩], false)
        let (triedMembers, tries, connected) ← memberLoop triedMembers rest
        return (triedMembers, ⟨memberId, false⟩ :: tries, connected)

def memberIds : List Int := (List.range config.clusterEndpoints.length).map Int.ofNat

/-- The branch of an attempt that follows the redirect register. -/
def followRedirect (triedMembers : Finset Int) (redirectTarget : Int) :
    SessionM (Finset Int × Attempt × Bool) := do
  let triedMembers := insert redirectTarget triedMembers
  if ← tryConnectToMember config world redirectTarget then
    update (fun s => { s with redirectedToMemberId := -1 })
    return (triedMembers,
      { redirectTarget := redirectTarget, redirected := [⟨redirectTarget, true⟩] }, true)
  let newRedirect := (← look world).redirectedToMemberId
  -- every branch of the source removes the target from the tried members again
  if newRedirect < 0 then update (fun s => { s with redirectedToMemberId := -1 })
  return (triedMembers.erase redirectTarget,
    { redirectTarget := redirectTarget, redirected := [⟨redirectTarget, false⟩] }, false)

def connectAttempt (triedMembers : Finset Int) : SessionM (Finset Int × Attempt × Bool) := do
  let redirectTarget := (← look world).redirectedToMemberId
  if 0 ≤ redirectTarget ∧ redirectTarget < config.clusterEndpoints.length ∧
      redirectTarget ∉ triedMembers then
    followRedirect config world triedMembers redirectTarget
  else
    let pendingRedirect := (← look world).redirectedToMemberId
    if 0 ≤ pendingRedirect then
      return (triedMembers, { redirectTarget := redirectTarget }, false)
    else
      let (triedMembers, tries, connected) ←
        memberLoop config world triedMembers (memberIds config)
      return (triedMembers, { redirectTarget := redirectTarget, memberLoop := tries }, connected)

def connectLoop (triedMembers : Finset Int) : Nat → SessionM (List Attempt × Bool)
  | 0 => return ([], false)
  | remaining + 1 => do
      let (triedMembers, attempt, connected) ← connectAttempt config world triedMembers
      if connected then return ([attempt], true)
      let (attempts, connected) ← connectLoop triedMembers remaining
      return (attempt :: attempts, connected)

/-- `SessionManager::connect`, with the record of its attempts. A success starts a keepalive thread. -/
def connect : SessionM (SessionConnectionResult × List Attempt) := do
  let (attempts, connected) ← connectLoop config world ∅ config.maxRetries.toNat
  if connected then
    let s ← look world
    update (fun s => { s with keepaliveThreads := s.keepaliveThreads + 1 })
    return ({ success := true
              sessionId := s.sessionId
              leaderMemberId := s.leaderMemberId
              leadershipTermId := s.leadershipTermId }, attempts)
  else
    let message := ascii "Failed to connect to any cluster member after " ++
      stdToString config.maxRetries ++ ascii " attempts"
    return ({ errorMessage := message }, attempts)

def attemptsOf (m : Machine) : List Attempt :=
  match returned (connect config world) m with
  | some (_, attempts) => attempts
  | none => []

end Programs

section Totality

variable {config : ClusterClientConfig} {world : World}

theorem total_look : Total (look world) := fun _ => ⟨_, _, rfl⟩

theorem total_update (f : SessionState → SessionState) : Total (update f) := total_modify _

theorem total_tryConnectToMember (memberId : Int) :
    Total (tryConnectToMember config world memberId) := by
  unfold tryConnectToMember
  exact total_ite (total_pure false) (total_tryCatch (fun _ => total_pure false))

theorem total_memberLoop (triedMembers : Finset Int) (members : List Int) :
    Total (memberLoop config world triedMembers members) := by
  induction members generalizing triedMembers with
  | nil => exact total_pure _
  | cons memberId rest ih =>
      unfold memberLoop
      refine total_ite (ih triedMembers) ?_
      refine total_bind (total_update _) (fun _ => ?_)
      refine total_bind (total_tryConnectToMember memberId) (fun connected => ?_)
      refine total_ite (total_pure _) ?_
      refine total_bind total_look (fun s => ?_)
      refine total_ite (total_pure _) ?_
      exact total_bind (ih _) (fun _ => total_pure _)

theorem total_connectAttempt (triedMembers : Finset Int) :
    Total (connectAttempt config world triedMembers) := by
  unfold connectAttempt
  refine total_bind total_look (fun s => total_ite ?_ ?_)
  · unfold followRedirect
    refine total_bind (total_tryConnectToMember _) (fun connected => total_ite ?_ ?_)
    · exact total_bind (total_update _) (fun _ => total_pure _)
    · refine total_bind total_look (fun s => total_ite ?_ ?_)
      · exact total_bind (total_update _) (fun _ => total_pure _)
      · exact total_pure _
  · refine total_bind total_look (fun s => total_ite (total_pure _) ?_)
    exact total_bind (total_memberLoop _ _) (fun _ => total_pure _)

theorem total_connectLoop (triedMembers : Finset Int) (remaining : Nat) :
    Total (connectLoop config world triedMembers remaining) := by
  induction remaining generalizing triedMembers with
  | zero => exact total_pure _
  | succ remaining ih =>
      unfold connectLoop
      refine total_bind (total_connectAttempt _) (fun a => total_ite (total_pure _) ?_)
      exact total_bind (ih _) (fun _ => total_pure _)

theorem total_connect : Total (connect config world) := by
  unfold connect
  refine total_bind (total_connectLoop ∅ _) (fun a => total_ite ?_ (total_pure _))
  exact total_bind total_look (fun s => total_bind (total_update _) (fun _ => total_pure _))

theorem total_sendRawMessage (frame : List UInt8) : Total (sendRawMessage config world frame) := by
  unfold sendRawMessage
  refine total_bind total_look fun s => total_ite (total_pure _) ?_
  exact total_tryCatch fun _ => total_pure _

theorem total_sendCombinedMessage (businessMessage : List UInt8) :
    Total (sendCombinedMessage config world businessMessage) := by
  unfold sendCombinedMessage
  refine total_bind total_look fun s => total_ite (total_pure _) ?_
  refine total_bind total_look fun s => total_ite (total_pure _) ?_
  exact total_tryCatch fun _ => total_pure _

theorem total_publishMessage (topic messageType messageId payload headers : StdString) :
    Total (publishMessage config world topic messageType messageId payload headers) := by
  unfold publishMessage
  refine total_bind total_look fun s => total_ite (total_pure _) ?_
  exact total_tryCatch fun _ => total_pure _

theorem total_sendKeepalive : Total (sendKeepalive world) := by
  have counted : Total countFailedKeepalive := total_bind (total_update _) fun _ => total_pure _
  unfold sendKeepalive
  refine total_bind total_look fun s => total_ite (total_pure _) ?_
  exact total_tryCatch fun _ => counted

theorem total_sendCloseRequest (closeRequest : List UInt8) (attempts : Nat) :
    Total (sendCloseRequest config world closeRequest attempts) := by
  induction attempts with
  | zero => exact total_pure _
  | succ attempts ih =>
      unfold sendCloseRequest
      exact total_bind (total_sendRawMessage closeRequest) fun sent => total_ite (total_pure _) ih

theorem total_disconnect : Total (disconnect config world) := by
  have reset : Total (update fun s =>
      { s with ingressPublication := none, connected := false, sessionId := -1 }) := total_update _
  unfold disconnect
  refine total_bind total_look fun s => total_ite (total_ite ?_ reset) reset
  exact total_bind (total_sendCloseRequest _ 3) fun _ => reset

end Totality

section Attempts

variable {config : ClusterClientConfig} {world : World} {m after : Machine}

theorem memberLoop_cases {memberId : Int} {rest : List Int} {triedMembers tried : Finset Int}
    {tries : List Try} {connected : Bool} (fresh : memberId ∉ triedMembers)
    (run : (memberLoop config world triedMembers (memberId :: rest)).run m =
      .ok (tried, tries, connected) after) :
    ∃ won middle later, tries = ⟨memberId, won⟩ :: later ∧
      (tryConnectToMember config world memberId).run
        { m with session.redirectedToMemberId := -1 } = .ok won middle ∧
      (won = true ∧ tried = insert memberId triedMembers ∧ later = [] ∨
        won = false ∧ ∃ s looked, (look world).run middle = .ok s looked ∧
          ((0 ≤ s.redirectedToMemberId ∧ s.redirectedToMemberId ≠ memberId) ∧
              tried = insert memberId triedMembers ∧ later = [] ∨
            (memberLoop config world (insert memberId triedMembers) rest).run looked =
              .ok (tried, later, connected) after)) := by
  unfold memberLoop at run
  rw [if_neg fresh] at run
  obtain ⟨_, _, ⟨⟩, run⟩ := bind_eq_ok.mp run
  obtain ⟨won, middle, tryRun, run⟩ := bind_eq_ok.mp run
  cases won with
  | true =>
      cases run
      exact ⟨true, _, [], rfl, tryRun, Or.inl ⟨rfl, rfl, rfl⟩⟩
  | false =>
      obtain ⟨s, looked, lookRun, run⟩ := bind_eq_ok.mp run
      dsimp only at run
      split at run
      · rename_i redirect
        cases run
        exact ⟨false, middle, [], rfl, tryRun, Or.inr ⟨rfl, s, _, lookRun,
          Or.inl ⟨redirect, rfl, rfl⟩⟩⟩
      · obtain ⟨⟨_, later, _⟩, _, laterRun, ⟨⟩⟩ := bind_eq_ok.mp run
        exact ⟨false, middle, later, rfl, tryRun, Or.inr ⟨rfl, s, looked, lookRun, Or.inr laterRun⟩⟩

/-- The member loop tries members of its list that were not tried, and adds exactly those it tries. -/
theorem memberLoop_spec {members : List Int} {triedMembers tried : Finset Int} {tries : List Try}
    {connected : Bool}
    (run : (memberLoop config world triedMembers members).run m =
      .ok (tried, tries, connected) after) :
    (∀ x, x ∈ tried ↔ x ∈ triedMembers ∨ x ∈ tries.map Try.member) ∧
      ∀ x ∈ tries.map Try.member, x ∈ members ∧ x ∉ triedMembers := by
  induction members generalizing triedMembers tried tries connected m after with
  | nil =>
      cases run
      simp
  | cons memberId rest ih =>
      by_cases seen : memberId ∈ triedMembers
      · unfold memberLoop at run
        rw [if_pos seen] at run
        obtain ⟨union, fresh⟩ := ih run
        refine ⟨union, fun x hx => ?_⟩
        exact ⟨List.mem_cons_of_mem _ (fresh x hx).1, (fresh x hx).2⟩
      · have single : (∀ x, x ∈ insert memberId triedMembers ↔
              x ∈ triedMembers ∨ x ∈ [memberId]) ∧
            ∀ x ∈ [memberId], x ∈ memberId :: rest ∧ x ∉ triedMembers := by
          refine ⟨fun x => ?_, fun x hx => ?_⟩
          · rw [Finset.mem_insert, List.mem_singleton, or_comm]
          · rw [List.mem_singleton.mp hx]
            exact ⟨List.mem_cons_self, seen⟩
        obtain ⟨won, _, later, rfl, -, ⟨-, rfl, rfl⟩ | ⟨-, _, _, -, ⟨-, rfl, rfl⟩ | laterRun⟩⟩ :=
          memberLoop_cases seen run
        · exact single
        · exact single
        · obtain ⟨union, fresh⟩ := ih laterRun
          refine ⟨fun x => ?_, fun x hx => ?_⟩
          · rw [union x, Finset.mem_insert, List.map_cons, List.mem_cons]
            tauto
          · rw [List.map_cons, List.mem_cons] at hx
            rcases hx with rfl | hx
            · exact ⟨List.mem_cons_self, seen⟩
            · obtain ⟨inRest, notTried⟩ := fresh x hx
              rw [Finset.mem_insert, not_or] at notTried
              exact ⟨List.mem_cons_of_mem _ inRest, notTried.2⟩

theorem mem_memberIds {x : Int} :
    x ∈ memberIds config ↔ 0 ≤ x ∧ x < config.clusterEndpoints.length := by
  simp only [memberIds, List.mem_map, List.mem_range]
  constructor
  · rintro ⟨n, hn, rfl⟩
    exact ⟨Int.natCast_nonneg n, Int.ofNat_lt.mpr hn⟩
  · rintro ⟨nonneg, below⟩
    exact ⟨x.toNat, by omega, by simp [nonneg]⟩

/-- The register names a listed member that the call has not tried through its member loop. -/
def Followed (config : ClusterClientConfig) (triedMembers : Finset Int) (redirectTarget : Int) :
    Prop :=
  0 ≤ redirectTarget ∧ redirectTarget < config.clusterEndpoints.length ∧
    redirectTarget ∉ triedMembers

/-- What one attempt does: it tries the register's member if that is `Followed`, and
otherwise only members of the list that were not tried yet. -/
theorem connectAttempt_spec {triedMembers tried : Finset Int} {attempt : Attempt}
    {connected : Bool}
    (run : (connectAttempt config world triedMembers).run m = .ok (tried, attempt, connected) after) :
    (attempt.redirectTarget ∈ attempt.members ↔
        Followed config triedMembers attempt.redirectTarget) ∧
      (connected = false → ∀ x, x ∈ tried ↔
        x ∈ triedMembers ∨ x ∈ attempt.memberLoop.map Try.member) := by
  unfold connectAttempt at run
  obtain ⟨s, _, -, run⟩ := bind_eq_ok.mp run
  dsimp only at run
  split at run
  · rename_i followed
    unfold followRedirect at run
    obtain ⟨won, _, -, run⟩ := bind_eq_ok.mp run
    cases won with
    | true =>
        obtain ⟨_, _, -, run⟩ := bind_eq_ok.mp run
        cases run
        exact ⟨by simpa [Attempt.members, Followed] using followed, by simp⟩
    | false =>
        obtain ⟨s', _, -, run⟩ := bind_eq_ok.mp run
        have restored (x : Int) : x ∈ (insert s.redirectedToMemberId triedMembers).erase
            s.redirectedToMemberId ↔ x ∈ triedMembers := by
          rw [Finset.erase_insert followed.2.2]
        have outcome : tried = (insert s.redirectedToMemberId triedMembers).erase
              s.redirectedToMemberId ∧
            attempt = { redirectTarget := s.redirectedToMemberId
                        redirected := [⟨s.redirectedToMemberId, false⟩] } := by
          dsimp only at run
          split at run
          · obtain ⟨_, _, -, run⟩ := bind_eq_ok.mp run
            cases run
            exact ⟨rfl, rfl⟩
          · cases run
            exact ⟨rfl, rfl⟩
        obtain ⟨rfl, rfl⟩ := outcome
        refine ⟨by simpa [Attempt.members, Followed] using followed, fun _ x => ?_⟩
        rw [restored x]
        simp
  · rename_i notFollowed
    obtain ⟨s', _, -, run⟩ := bind_eq_ok.mp run
    split at run
    · cases run
      exact ⟨by simpa [Attempt.members, Followed] using notFollowed, by simp⟩
    · obtain ⟨⟨loopTried, tries, won⟩, _, loop, run⟩ := bind_eq_ok.mp run
      cases run
      obtain ⟨union, fresh⟩ := memberLoop_spec loop
      refine ⟨?_, fun _ => union⟩
      constructor
      · intro tried
        obtain ⟨listed, notTried⟩ := fresh _ (by simpa [Attempt.members] using tried)
        exact absurd ⟨(mem_memberIds.mp listed).1, (mem_memberIds.mp listed).2, notTried⟩ notFollowed
      · exact fun followed => absurd followed notFollowed

theorem connectLoop_cases {triedMembers : Finset Int} {remaining : Nat} {attempts : List Attempt}
    {connected : Bool} (run : (connectLoop config world triedMembers (remaining + 1)).run m =
      .ok (attempts, connected) after) :
    ∃ tried first won middle later, attempts = first :: later ∧
      (connectAttempt config world triedMembers).run m = .ok (tried, first, won) middle ∧
      (won = true ∧ later = [] ∨
        won = false ∧ (connectLoop config world tried remaining).run middle =
          .ok (later, connected) after) := by
  unfold connectLoop at run
  obtain ⟨⟨tried, first, won⟩, middle, firstRun, run⟩ := bind_eq_ok.mp run
  cases won with
  | true =>
      cases run
      exact ⟨tried, first, true, _, [], rfl, firstRun, Or.inl ⟨rfl, rfl⟩⟩
  | false =>
      obtain ⟨⟨later, _⟩, _, laterRun, ⟨⟩⟩ := bind_eq_ok.mp run
      exact ⟨tried, first, false, middle, later, rfl, firstRun, Or.inr ⟨rfl, laterRun⟩⟩

theorem attemptsOf_eq (config : ClusterClientConfig) (world : World) (m : Machine) :
    ∃ connected after, (connectLoop config world ∅ config.maxRetries.toNat).run m =
      .ok (attemptsOf config world m, connected) after := by
  have returns : Total (connect config world) := total_connect
  obtain ⟨⟨result, attempts⟩, last, run⟩ := returns m
  have made : attemptsOf config world m = attempts := by
    unfold attemptsOf returned
    rw [run]
  rw [made]
  unfold connect at run
  obtain ⟨⟨loopAttempts, won⟩, after, loop, run⟩ := bind_eq_ok.mp run
  refine ⟨won, after, ?_⟩
  cases won with
  | true =>
      obtain ⟨_, _, -, run⟩ := bind_eq_ok.mp run
      obtain ⟨_, _, -, ⟨⟩⟩ := bind_eq_ok.mp run
      exact loop
  | false =>
      cases run
      exact loop

end Attempts

end AeronClusterClient.Session.Connect
