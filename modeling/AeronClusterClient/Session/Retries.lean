/- module: AeronClusterClient/Session/Retries
   source: src/session_manager.cpp (connect, try_connect_to_member)
   digest: What the attempts of a connect call try when every member fails. -/

import AeronClusterClient.Session.Connect

/-!
Without redirects the first attempt runs through all list indices, and the
tried set, which the attempts share, keeps the later attempts from trying
anything. Explicit member ids outside the index range are never tried at all.
-/

set_option autoImplicit false
set_option relaxedAutoImplicit false

namespace AeronClusterClient.Session.Retries

open Lib.Action Sbe.Parser Session.Manager Session.Connect
open Config (ClusterClientConfig)
open Text (StdString ascii find)

variable {config : ClusterClientConfig} {world : World} {m after : Machine}

/-- The member ids that the endpoint list configures: explicit ids, and indices of plain entries. -/
def configuredMembers (endpoints : List StdString) : List Int :=
  endpoints.zipIdx.filterMap (fun (entry, index) =>
    if (find entry 61).isNone then some (index : Int) else (explicitEntry entry).map Prod.fst)

def isRedirect : Event → Bool
  | .session result => result.isSessionEvent && result.eventCode == SESSION_EVENT_REDIRECT
  | _ => false

def NoRedirects (world : World) : Prop := ∀ k, ∀ e ∈ world.events k, isRedirect e = false

def AllFail (attempts : List Attempt) : Prop :=
  ∀ attempt ∈ attempts, ∀ t ∈ attempt.redirected ++ attempt.memberLoop, t.connected = false

/-- Each of the configured number of attempts tries every configured member, so that each
member is tried that often in all. -/
def RetriesEveryMember (config : ClusterClientConfig) (attempts : List Attempt) : Prop :=
  attempts.length = config.maxRetries.toNat ∧
    (∀ attempt ∈ attempts, ∀ memberId ∈ configuredMembers config.clusterEndpoints,
      memberId ∈ attempt.members) ∧
    ∀ memberId ∈ configuredMembers config.clusterEndpoints,
      (attempts.flatMap Attempt.members).count memberId = config.maxRetries.toNat

/-- No redirect is pending. -/
def Calm (m : Machine) : Prop := m.session.redirectedToMemberId < 0

def KeepsCalm (m after : Machine) : Prop := Calm m → Calm after

instance : IsPreorder Machine KeepsCalm where
  refl _ calm := calm
  trans _ _ _ first second calm := second (first calm)

section Calmness

private theorem redirected_handleConnectionLoss (s : SessionState) :
    s.handleConnectionLoss.redirectedToMemberId = s.redirectedToMemberId := by
  unfold SessionState.handleConnectionLoss
  split <;> rfl

private theorem redirected_handleOfferFailure (s : SessionState) (result : Int) :
    (s.handleOfferFailure result).redirectedToMemberId = s.redirectedToMemberId := by
  unfold SessionState.handleOfferFailure
  dsimp only
  split
  · rfl
  · split
    · rw [redirected_handleConnectionLoss]
      rfl
    · rfl

private theorem redirected_handleSessionEvent {s : SessionState} {result : ParseResult}
    (other : isRedirect (.session result) = false) :
    (s.handleSessionEvent result).redirectedToMemberId = s.redirectedToMemberId := by
  unfold SessionState.handleSessionEvent
  by_cases event : result.isSessionEvent = true
  · have code : result.eventCode ≠ SESSION_EVENT_REDIRECT := by
      simpa [isRedirect, event] using other
    simp only [event, Bool.not_true, Bool.false_eq_true, if_false, if_neg code]
    split
    · rfl
    · split
      · rfl
      · split <;> rfl
  · simp [event]

theorem redirected_apply {s : SessionState} {e : Event} (other : isRedirect e = false) :
    (s.apply e).redirectedToMemberId = s.redirectedToMemberId := by
  cases e with
  | session result => exact redirected_handleSessionEvent other
  | offerFailed result => exact redirected_handleOfferFailure s result
  | publication connected => rfl

theorem keepsCalm_look (quiet : NoRedirects world) : Within KeepsCalm (look world) := by
  intro m calm
  have unmoved (events : List Event) (s : SessionState)
      (others : ∀ e ∈ events, isRedirect e = false) :
      (events.foldl SessionState.apply s).redirectedToMemberId = s.redirectedToMemberId := by
    induction events generalizing s with
    | nil => rfl
    | cons e events ih =>
        rw [List.foldl_cons, ih _ (fun e' h => others e' (List.mem_cons_of_mem e h)),
          redirected_apply (others e List.mem_cons_self)]
  change ((world.events m.looks).foldl SessionState.apply m.session).redirectedToMemberId < 0
  rw [unmoved _ _ (quiet m.looks)]
  exact calm

theorem keepsCalm_update {f : SessionState → SessionState}
    (unmoved : ∀ s, (f s).redirectedToMemberId = s.redirectedToMemberId) :
    Within KeepsCalm (update f) := by
  refine within_modify (fun m calm => ?_)
  unfold Calm
  rw [unmoved]
  exact calm

private theorem keepsCalm_sendSessionConnectRequest (quiet : NoRedirects world) :
    Within KeepsCalm (sendSessionConnectRequest config world) := by
  unfold sendSessionConnectRequest
  refine within_tryCatch ?_ (fun _ => within_pure false)
  refine within_bind (keepsCalm_look quiet) (fun s => ?_)
  refine within_bind ?_ (fun result => within_ite ?_ ?_)
  · unfold offer
    refine within_bind (keepsCalm_look quiet) (fun _ => ?_)
    refine within_bind within_get (fun _ => within_bind (within_ofExcept _) (fun _ => ?_))
    exact within_bind (keepsCalm_update (fun _ => rfl)) (fun _ => within_pure _)
  · exact within_bind (keepsCalm_update (fun _ => rfl)) (fun _ => within_pure _)
  · exact within_bind (keepsCalm_update (fun s => redirected_handleOfferFailure s result))
      (fun _ => within_pure _)

private theorem keepsCalm_offerConnectRequest (quiet : NoRedirects world) (retries : Nat) :
    Within KeepsCalm (offerConnectRequest config world retries) := by
  induction retries with
  | zero => exact within_pure false
  | succ retries ih =>
      unfold offerConnectRequest
      exact within_bind (keepsCalm_sendSessionConnectRequest quiet)
        (fun _ => within_ite (within_pure true) ih)

private theorem keepsCalm_waitForPublication (quiet : NoRedirects world) (polls : Nat) :
    Within KeepsCalm (waitForPublication world polls) := by
  induction polls with
  | zero => exact within_pure ()
  | succ polls ih =>
      unfold waitForPublication
      refine within_bind within_get (fun _ => ?_)
      refine within_bind (keepsCalm_update (fun _ => rfl)) (fun _ => ?_)
      exact within_bind (keepsCalm_look quiet) (fun _ => within_ite (within_pure ()) ih)

private theorem keepsCalm_waitForSession (quiet : NoRedirects world) (memberId : Int)
    (polls : Nat) : Within KeepsCalm (waitForSession world memberId polls) := by
  induction polls with
  | zero => exact within_bind (keepsCalm_look quiet) (fun _ => within_pure _)
  | succ polls ih =>
      unfold waitForSession
      refine within_bind (keepsCalm_look quiet) (fun _ => within_ite (within_pure true) ?_)
      exact within_bind (keepsCalm_look quiet) (fun _ => within_ite (within_pure false) ih)

theorem keepsCalm_tryConnectToMember (quiet : NoRedirects world) (memberId : Int) :
    Within KeepsCalm (tryConnectToMember config world memberId) := by
  unfold tryConnectToMember
  refine within_ite (within_pure false) (within_tryCatch ?_ (fun _ => within_pure false))
  refine within_bind (keepsCalm_update (fun _ => rfl)) (fun _ => ?_)
  refine within_bind within_get (fun _ => within_bind (within_ofExcept _) (fun _ => ?_))
  refine within_bind within_get (fun _ => ?_)
  refine within_bind (keepsCalm_waitForPublication quiet _) (fun _ => ?_)
  refine within_bind (keepsCalm_look quiet) (fun _ => within_ite (within_pure false) ?_)
  refine within_bind (keepsCalm_offerConnectRequest quiet 20) (fun _ => ?_)
  refine within_ite (within_pure false) ?_
  refine within_bind (keepsCalm_update (fun _ => rfl)) (fun _ => ?_)
  exact within_bind within_get (fun _ => keepsCalm_waitForSession quiet memberId _)

end Calmness

private theorem memberLoop_calm (quiet : NoRedirects world) (calm : Calm m) {members : List Int}
    (distinct : members.Nodup) {triedMembers tried : Finset Int} {tries : List Try}
    {connected : Bool} (fail : ∀ t ∈ tries, t.connected = false)
    (run : (memberLoop config world triedMembers members).run m =
      .ok (tried, tries, connected) after) :
    tries.map Try.member = members.filter (fun x => decide (x ∉ triedMembers)) ∧
      connected = false ∧ Calm after := by
  induction members generalizing triedMembers tried tries connected m after with
  | nil =>
      cases run
      exact ⟨rfl, rfl, calm⟩
  | cons memberId rest ih =>
      obtain ⟨notInRest, restDistinct⟩ := List.nodup_cons.mp distinct
      by_cases seen : memberId ∈ triedMembers
      · unfold memberLoop at run
        rw [if_pos seen] at run
        rw [List.filter_cons_of_neg (by simpa using seen)]
        exact ih calm restDistinct fail run
      · rw [List.filter_cons_of_pos (by simpa using seen)]
        obtain ⟨won, m₁, later, rfl, tryRun, goesOn⟩ := memberLoop_cases seen run
        have lost : won = false := fail ⟨memberId, won⟩ List.mem_cons_self
        subst lost
        obtain ⟨⟨⟩, -⟩ | ⟨-, s, m₂, lookRun, goesOn⟩ := goesOn
        have calm₁ : Calm m₁ :=
          (keepsCalm_tryConnectToMember quiet memberId).of_ok tryRun (by decide : (-1 : Int) < 0)
        have calm₂ : Calm m₂ := (keepsCalm_look quiet).of_ok lookRun calm₁
        have register : s.redirectedToMemberId = m₂.session.redirectedToMemberId := by
          cases lookRun
          rfl
        obtain ⟨⟨redirect, -⟩, -⟩ | laterRun := goesOn
        · rw [register] at redirect
          exact absurd redirect (Int.not_le.mpr calm₂)
        · obtain ⟨members, lost, calm₃⟩ := ih calm₂ restDistinct
            (fun t h => fail t (List.mem_cons_of_mem _ h)) laterRun
          refine ⟨?_, lost, calm₃⟩
          rw [List.map_cons, members]
          congr 1
          refine List.filter_congr (fun x hx => ?_)
          have other : x ≠ memberId := fun same => notInRest (same ▸ hx)
          simp [other]

theorem nodup_memberIds : (memberIds config).Nodup :=
  List.nodup_range.map (fun _ _ same => Int.ofNat.inj same)

/-- In a calm call whose tries all fail, an attempt tries the fresh list indices in order. -/
private theorem connectAttempt_calm (quiet : NoRedirects world) (calm : Calm m)
    {triedMembers tried : Finset Int} {attempt : Attempt} {connected : Bool}
    (fail : ∀ t ∈ attempt.redirected ++ attempt.memberLoop, t.connected = false)
    (run : (connectAttempt config world triedMembers).run m =
      .ok (tried, attempt, connected) after) :
    attempt.redirected = [] ∧
      attempt.members = (memberIds config).filter (fun x => decide (x ∉ triedMembers)) ∧
      connected = false ∧ Calm after := by
  unfold connectAttempt at run
  obtain ⟨s, m₁, lookRun, run⟩ := bind_eq_ok.mp run
  have calm₁ : Calm m₁ := (keepsCalm_look quiet).of_ok lookRun calm
  have register : s.redirectedToMemberId = m₁.session.redirectedToMemberId := by
    cases lookRun
    rfl
  dsimp only at run
  rw [if_neg (fun followed => absurd followed.1 (by rw [register]; exact Int.not_le.mpr calm₁))]
    at run
  obtain ⟨s', m₂, lookRun', run⟩ := bind_eq_ok.mp run
  have calm₂ : Calm m₂ := (keepsCalm_look quiet).of_ok lookRun' calm₁
  have register' : s'.redirectedToMemberId = m₂.session.redirectedToMemberId := by
    cases lookRun'
    rfl
  rw [if_neg (fun pending => absurd pending (by rw [register']; exact Int.not_le.mpr calm₂))] at run
  obtain ⟨⟨loopTried, tries, won⟩, _, loop, ⟨⟩⟩ := bind_eq_ok.mp run
  exact ⟨rfl, memberLoop_calm quiet calm₂ nodup_memberIds (by simpa using fail) loop⟩

/-- After an attempt that tried all list indices, the remaining attempts try nothing. -/
private theorem connectLoop_exhausted (quiet : NoRedirects world) (calm : Calm m)
    {triedMembers : Finset Int} (all : ∀ x ∈ memberIds config, x ∈ triedMembers)
    {remaining : Nat} {attempts : List Attempt} {connected : Bool} (fail : AllFail attempts)
    (run : (connectLoop config world triedMembers remaining).run m =
      .ok (attempts, connected) after) :
    attempts.map Attempt.members = List.replicate remaining [] := by
  induction remaining generalizing triedMembers attempts connected m after with
  | zero =>
      cases run
      rfl
  | succ remaining ih =>
      obtain ⟨tried, first, won, m₁, later, rfl, firstRun, rest⟩ := connectLoop_cases run
      obtain ⟨-, union⟩ := connectAttempt_spec firstRun
      obtain ⟨-, members, rfl, calm₁⟩ :=
        connectAttempt_calm quiet calm (fail first List.mem_cons_self) firstRun
      obtain ⟨⟨⟩, -⟩ | ⟨-, laterRun⟩ := rest
      have none : first.members = [] := by
        rw [members, List.filter_eq_nil_iff]
        intro x listed
        simpa using all x listed
      rw [List.map_cons, none, ih calm₁ (fun x h => (union rfl x).mpr (Or.inl (all x h)))
        (fun a h => fail a (List.mem_cons_of_mem _ h)) laterRun, List.replicate_succ]

/-- What a call tries when no redirect is pending or received and every try fails: all
list indices in the first attempt, nothing in the later ones. -/
theorem members_attemptsOf (quiet : NoRedirects world) (calm : Calm m)
    (fail : AllFail (attemptsOf config world m)) (some : 0 < config.maxRetries) :
    (attemptsOf config world m).map Attempt.members =
      memberIds config :: List.replicate (config.maxRetries.toNat - 1) [] := by
  obtain ⟨connected, after, run⟩ := attemptsOf_eq config world m
  generalize attemptsOf config world m = attempts at run fail ⊢
  obtain ⟨remaining, count⟩ : ∃ n, config.maxRetries.toNat = n + 1 :=
    Nat.exists_eq_succ_of_ne_zero (by omega)
  rw [count] at run ⊢
  obtain ⟨tried, first, won, m₁, later, rfl, firstRun, rest⟩ := connectLoop_cases run
  obtain ⟨-, union⟩ := connectAttempt_spec firstRun
  obtain ⟨noRedirect, members, rfl, calm₁⟩ :=
    connectAttempt_calm quiet calm (fail first List.mem_cons_self) firstRun
  obtain ⟨⟨⟩, -⟩ | ⟨-, laterRun⟩ := rest
  have whole : first.members = memberIds config := by
    rw [members, List.filter_eq_self]
    simp
  have all : ∀ x ∈ memberIds config, x ∈ tried := by
    intro x listed
    refine (union rfl x).mpr (Or.inr ?_)
    rw [← whole, Attempt.members, noRedirect] at listed
    exact listed
  rw [List.map_cons, whole, connectLoop_exhausted quiet calm₁ all
    (fun a h => fail a (List.mem_cons_of_mem _ h)) laterRun, Nat.add_sub_cancel]

theorem length_attemptsOf (quiet : NoRedirects world) (calm : Calm m)
    (fail : AllFail (attemptsOf config world m)) (some : 0 < config.maxRetries) :
    (attemptsOf config world m).length = config.maxRetries.toNat := by
  have lengths := congrArg List.length (members_attemptsOf quiet calm fail some)
  simp only [List.length_map, List.length_cons, List.length_replicate] at lengths
  omega

theorem single_attempt_of_every (quiet : NoRedirects world) (calm : Calm m)
    (fail : AllFail (attemptsOf config world m)) (some : 0 < config.maxRetries) {memberId : Int}
    (every : ∀ attempt ∈ attemptsOf config world m, memberId ∈ attempt.members) :
    memberId ∈ memberIds config ∧ config.maxRetries = 1 := by
  have inAll : ∀ members ∈ (attemptsOf config world m).map Attempt.members, memberId ∈ members := by
    simpa using every
  rw [members_attemptsOf quiet calm fail some] at inAll
  refine ⟨inAll _ List.mem_cons_self, ?_⟩
  by_contra several
  have empty : memberId ∈ ([] : List Int) := inAll [] (List.mem_cons_of_mem _
    (List.mem_replicate.mpr ⟨by omega, rfl⟩))
  cases empty

theorem attemptsOf_eq_nil (none : config.maxRetries ≤ 0) : attemptsOf config world m = [] := by
  obtain ⟨connected, after, run⟩ := attemptsOf_eq config world m
  rw [Int.toNat_of_nonpos none] at run
  change EStateM.Result.ok ([], false) m = _ at run
  injection run with values
  exact (Prod.mk.inj values).1.symm

/-- In every call without redirects in which every try fails, all attempts try every
configured member exactly when there is nothing to try, or there is one attempt and every
configured id is an index of the endpoint list. -/
theorem retries_every_member_iff (quiet : NoRedirects world) (calm : Calm m)
    (fail : AllFail (attemptsOf config world m)) :
    RetriesEveryMember config (attemptsOf config world m) ↔
      configuredMembers config.clusterEndpoints = [] ∨ config.maxRetries ≤ 0 ∨
        (config.maxRetries = 1 ∧ ∀ memberId ∈ configuredMembers config.clusterEndpoints,
          0 ≤ memberId ∧ memberId < config.clusterEndpoints.length) := by
  by_cases some : 0 < config.maxRetries
  · have tried := members_attemptsOf quiet calm fail some
    have count := length_attemptsOf quiet calm fail some
    have each {memberId : Int}
        (every : ∀ attempt ∈ attemptsOf config world m, memberId ∈ attempt.members) :
        memberId ∈ memberIds config ∧ config.maxRetries = 1 :=
      single_attempt_of_every quiet calm fail some every
    constructor
    · rintro ⟨-, all, -⟩
      by_cases none : configuredMembers config.clusterEndpoints = []
      · exact Or.inl none
      · obtain ⟨first, configured⟩ := List.exists_mem_of_ne_nil _ none
        have one := (each (fun a h => all a h first configured)).2
        refine Or.inr (Or.inr ⟨one, fun memberId h => ?_⟩)
        exact mem_memberIds.mp (each (fun a made => all a made memberId h)).1
    · rintro (none | absent | ⟨one, listed⟩)
      · exact ⟨count, by simp [none], by simp [none]⟩
      · omega
      · rw [one] at tried
        have flat : (attemptsOf config world m).flatMap Attempt.members = memberIds config := by
          rw [List.flatMap_def, tried]
          simp
        refine ⟨count, fun attempt made memberId h => ?_, fun memberId h => ?_⟩
        · have inTried := List.mem_map_of_mem (f := Attempt.members) made
          rw [tried] at inTried
          simp only [Int.toNat_one, Nat.sub_self, List.replicate_zero, List.mem_singleton] at inTried
          rw [inTried]
          exact mem_memberIds.mpr (listed memberId h)
        · rw [flat, one]
          exact List.count_eq_one_of_mem nodup_memberIds (mem_memberIds.mpr (listed memberId h))
  · have none : attemptsOf config world m = [] := attemptsOf_eq_nil (by omega)
    refine iff_of_true ⟨?_, by simp [none], ?_⟩ (Or.inr (Or.inl (by omega)))
    · rw [none, List.length_nil]
      omega
    · intro memberId h
      rw [none, List.flatMap_nil, List.count_nil]
      omega

section Sample

def twoEndpoints : ClusterClientConfig :=
  { clusterEndpoints := [ascii "a:9002", ascii "b:9002"], maxRetries := 2 }

def unreachable : World := { findExclusivePublication := fun _ => none }

theorem retries_every_member_iff_sample :
    RetriesEveryMember twoEndpoints (attemptsOf twoEndpoints unreachable { session := {} }) ↔
      configuredMembers twoEndpoints.clusterEndpoints = [] ∨ twoEndpoints.maxRetries ≤ 0 ∨
        (twoEndpoints.maxRetries = 1 ∧
          ∀ memberId ∈ configuredMembers twoEndpoints.clusterEndpoints,
            0 ≤ memberId ∧ memberId < twoEndpoints.clusterEndpoints.length) :=
  retries_every_member_iff (fun _ _ h => absurd h List.not_mem_nil) (Int.negSucc_lt_zero 0)
    (by unfold AllFail; decide +kernel)

/-- The second attempt tries neither of the two members. -/
theorem second_attempt_tries_nobody :
    ¬ ∀ (config : ClusterClientConfig) (world : World) (m : Machine), NoRedirects world → Calm m →
      AllFail (attemptsOf config world m) →
      RetriesEveryMember config (attemptsOf config world m) := by
  intro claim
  obtain ⟨-, all, -⟩ := claim twoEndpoints unreachable { session := {} }
    (fun _ _ h => absurd h List.not_mem_nil) (Int.negSucc_lt_zero 0) (by unfold AllFail; decide +kernel)
  exact absurd all (by decide +kernel)

end Sample

end AeronClusterClient.Session.Retries
