/- module: AeronClusterClient/Session/Redirects
   source: src/session_manager.cpp (connect, resolve_endpoint_for_member, handle_session_redirect)
   digest: Exactly when an attempt of a connect call follows a pending redirect. -/

import AeronClusterClient.Session.Connect

/-!
An attempt that finds a redirect to a member with a known endpoint should try
that member. The range test of the source compares the member id with the
number of entries even when the entries carry explicit ids, and a member that
the call has once tried by itself stays in the tried set.
-/

set_option autoImplicit false
set_option relaxedAutoImplicit false

namespace AeronClusterClient.Session.Redirects

open Lib.Action Session.Manager Session.Connect
open Config (ClusterClientConfig)
open Text (StdString ascii)

variable {config : ClusterClientConfig} {world : World} {m after : Machine}

/-- An attempt that starts with a redirect to a resolvable member tries that member. -/
def FollowsRedirect (config : ClusterClientConfig) (attempt : Attempt) : Prop :=
  attempt.redirectTarget ≠ -1 →
    resolveEndpointForMember config.clusterEndpoints attempt.redirectTarget ≠ [] →
    attempt.redirectTarget ∈ attempt.members

def triedBefore (attempts : List Attempt) (i : Nat) : List Int :=
  (attempts.take i).flatMap (fun attempt => attempt.memberLoop.map Try.member)

private theorem followed_congr {triedMembers tried : Finset Int} {earlier : List Int} {target : Int}
    (union : ∀ x, x ∈ tried ↔ x ∈ triedMembers ∨ x ∈ earlier) :
    Followed config tried target ↔ Followed config triedMembers target ∧ target ∉ earlier := by
  unfold Followed
  rw [union target]
  tauto

/-- In every attempt of the loop, the redirect target is tried exactly when it is a list
index that neither the given set nor an earlier member loop contains. -/
private theorem connectLoop_followed {triedMembers : Finset Int} {remaining : Nat}
    {attempts : List Attempt} {connected : Bool}
    (run : (connectLoop config world triedMembers remaining).run m =
      .ok (attempts, connected) after) {i : Nat} {attempt : Attempt}
    (made : attempts[i]? = some attempt) :
    attempt.redirectTarget ∈ attempt.members ↔
      Followed config triedMembers attempt.redirectTarget ∧
        attempt.redirectTarget ∉ triedBefore attempts i := by
  induction remaining generalizing triedMembers attempts connected m after i with
  | zero =>
      cases run
      simp at made
  | succ remaining ih =>
      obtain ⟨tried, first, won, _, later, rfl, firstRun, rest⟩ := connectLoop_cases run
      obtain ⟨tries, union⟩ := connectAttempt_spec firstRun
      cases i with
      | zero =>
          cases made
          simpa [triedBefore] using tries
      | succ i =>
          rw [List.getElem?_cons_succ] at made
          rcases rest with ⟨-, rfl⟩ | ⟨rfl, laterRun⟩
          · simp at made
          · rw [ih laterRun made, followed_congr (union rfl), and_assoc]
            simp [triedBefore, not_or]

/-- In every run of a connect call, an attempt follows its redirect exactly when the
member id is an index of the endpoint list and no earlier attempt of the call has tried the
member by itself. -/
theorem follows_redirect_iff {i : Nat} {attempt : Attempt}
    (made : (attemptsOf config world m)[i]? = some attempt) :
    FollowsRedirect config attempt ↔
      (attempt.redirectTarget ≠ -1 →
        resolveEndpointForMember config.clusterEndpoints attempt.redirectTarget ≠ [] →
        0 ≤ attempt.redirectTarget ∧
          attempt.redirectTarget < config.clusterEndpoints.length ∧
          attempt.redirectTarget ∉ triedBefore (attemptsOf config world m) i) := by
  obtain ⟨connected, after, run⟩ := attemptsOf_eq config world m
  have tries := connectLoop_followed run made
  unfold FollowsRedirect
  rw [tries]
  simp [Followed, and_assoc]

section Sample

def explicitConfig : ClusterClientConfig :=
  { clusterEndpoints := [ascii "0=a:9002", ascii "5=b:9002"] }

/-- A session manager that has been redirected to member 5, before a connect call. -/
def redirected : Machine := { session := ({} : SessionState).handleSessionEvent (redirectEvent 5) }

theorem follows_redirect_iff_sample :
    FollowsRedirect explicitConfig { redirectTarget := 5 } ↔
      ((5 : Int) ≠ -1 → resolveEndpointForMember explicitConfig.clusterEndpoints 5 ≠ [] →
        0 ≤ (5 : Int) ∧ (5 : Int) < explicitConfig.clusterEndpoints.length ∧
          (5 : Int) ∉ triedBefore (attemptsOf explicitConfig {} redirected) 0) := by
  have made : (attemptsOf explicitConfig {} redirected)[0]? = some { redirectTarget := 5 } := by
    decide +kernel
  exact follows_redirect_iff made

/-- Member 5 has an explicit endpoint, but its id is no index of the two entries. -/
theorem explicit_redirect_not_followed :
    ¬ ∀ (config : ClusterClientConfig) (world : World) (m : Machine) (i : Nat) (attempt : Attempt),
      (attemptsOf config world m)[i]? = some attempt → FollowsRedirect config attempt := by
  intro claim
  have tried := claim explicitConfig {} redirected 0 { redirectTarget := 5 } (by decide +kernel)
    (by decide) (by decide +kernel)
  cases tried

end Sample

end AeronClusterClient.Session.Redirects
