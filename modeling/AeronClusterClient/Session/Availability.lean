/- module: AeronClusterClient/Session/Availability
   source: src/session_manager.cpp (connect, disconnect, handle_session_redirect)
   digest: Exactly when a connect call tries any member at all. -/

import AeronClusterClient.Session.Connect
import Mathlib.Logic.Function.Iterate

/-!
The redirect register outlives connect calls and disconnects. While a call has
tried nothing, it looks at the register twice in each attempt: once to follow a
redirect, once to see whether one is pending. A register that names no list
index fails the first test and passes the second, so the attempt is skipped.
-/

set_option autoImplicit false
set_option relaxedAutoImplicit false

namespace AeronClusterClient.Session.Availability

open Lib.Action Session.Manager Session.Connect
open Config (ClusterClientConfig)

variable {config : ClusterClientConfig} {world : World} {m after : Machine}

/-- The machine after one look that changes nothing by itself. -/
def afterLook (world : World) (m : Machine) : Machine :=
  { session := (world.events m.looks).foldl SessionState.apply m.session
    looks := m.looks + 1 }

/-- The redirect register as the `k`-th look of a call finds it, if the call has changed nothing. -/
def registerAt (world : World) (m : Machine) (k : Nat) : Int :=
  ((afterLook world)^[k + 1] m).session.redirectedToMemberId

/-- Some attempt called `try_connect_to_member`. -/
def TriesSomeMember (attempts : List Attempt) : Prop :=
  ∃ attempt ∈ attempts, attempt.members ≠ []

/-- One of the attempts finds the register at a list index, or finds no redirect pending. -/
def RegisterAllows (config : ClusterClientConfig) (world : World) (m : Machine)
    (attempts : Nat) : Prop :=
  ∃ i < attempts,
    (0 ≤ registerAt world m (2 * i) ∧
      registerAt world m (2 * i) < config.clusterEndpoints.length) ∨
    registerAt world m (2 * i + 1) < 0

theorem run_look : (look world).run m = .ok (afterLook world m).session (afterLook world m) :=
  rfl

theorem kept_afterLook {α : Type} (observe : SessionState → α)
    (kept : ∀ s event, observe (SessionState.apply s event) = observe s) (world : World) (m : Machine) :
    observe (afterLook world m).session = observe m.session := by
  have folded (events : List Event) (s : SessionState) :
      observe (events.foldl SessionState.apply s) = observe s := by
    induction events generalizing s with
    | nil => rfl
    | cons event events ih => rw [List.foldl_cons, ih, kept]
  exact folded _ _

theorem kept_afterLooks {α : Type} (observe : SessionState → α)
    (kept : ∀ s event, observe (SessionState.apply s event) = observe s) (world : World) (m : Machine)
    (k : Nat) : observe ((afterLook world)^[k] m).session = observe m.session := by
  induction k generalizing m with
  | zero => rfl
  | succ k ih => rw [Function.iterate_succ_apply, ih, kept_afterLook observe kept]

def afterOffer (world : World) (frame : List UInt8) (result : Int) (m : Machine) : Machine :=
  { afterLook world m with
    session.offered := (afterLook world m).session.offered ++ [(frame, result)] }

theorem run_offer {frame : List UInt8} {result : Int}
    (answered : world.offer (m.looks + 1) = .ok result) :
    (offer world frame).run m = .ok result (afterOffer world frame result m) :=
  bind_eq_ok.mpr ⟨_, _, run_look, bind_eq_ok.mpr ⟨_, _, rfl, bind_eq_ok.mpr
    ⟨result, _, ofExcept_eq_ok.mpr ⟨answered, rfl⟩, rfl⟩⟩⟩

private theorem registerAt_add_two (k : Nat) :
    registerAt world m (k + 2) = registerAt world (afterLook world (afterLook world m)) k := by
  unfold registerAt
  rw [show k + 2 + 1 = (k + 1) + 1 + 1 by omega, Function.iterate_succ_apply,
    Function.iterate_succ_apply]

private theorem registerAllows_one : RegisterAllows config world m 1 ↔
    (0 ≤ registerAt world m 0 ∧ registerAt world m 0 < config.clusterEndpoints.length) ∨
      registerAt world m 1 < 0 := by
  unfold RegisterAllows
  simp

private theorem registerAllows_succ (attempts : Nat) :
    RegisterAllows config world m (attempts + 1) ↔ RegisterAllows config world m 1 ∨
      RegisterAllows config world (afterLook world (afterLook world m)) attempts := by
  have shift (i : Nat) : registerAt world (afterLook world (afterLook world m)) (2 * i) =
        registerAt world m (2 * (i + 1)) ∧
      registerAt world (afterLook world (afterLook world m)) (2 * i + 1) =
        registerAt world m (2 * (i + 1) + 1) := by
    rw [← registerAt_add_two, ← registerAt_add_two]
    exact ⟨rfl, rfl⟩
  rw [registerAllows_one]
  constructor
  · rintro ⟨i, below, allowed⟩
    cases i with
    | zero => exact Or.inl allowed
    | succ i =>
        rw [← (shift i).1, ← (shift i).2] at allowed
        exact Or.inr ⟨i, by omega, allowed⟩
  · rintro (allowed | ⟨i, below, allowed⟩)
    · exact ⟨0, by omega, allowed⟩
    · rw [(shift i).1, (shift i).2] at allowed
      exact ⟨i + 1, by omega, allowed⟩

private theorem followRedirect_ne_nil {triedMembers tried : Finset Int} {target : Int}
    {attempt : Attempt} {connected : Bool}
    (run : (followRedirect config world triedMembers target).run m =
      .ok (tried, attempt, connected) after) : attempt.members ≠ [] := by
  unfold followRedirect at run
  obtain ⟨won, _, -, run⟩ := bind_eq_ok.mp run
  cases won with
  | true =>
      obtain ⟨_, _, -, ⟨⟩⟩ := bind_eq_ok.mp run
      simp [Attempt.members]
  | false =>
      obtain ⟨s, _, -, run⟩ := bind_eq_ok.mp run
      dsimp only at run
      split at run
      · obtain ⟨_, _, -, ⟨⟩⟩ := bind_eq_ok.mp run
        simp [Attempt.members]
      · cases run
        simp [Attempt.members]

private theorem memberLoop_ne_nil {members : List Int} {tried : Finset Int} {tries : List Try}
    {connected : Bool} (some : members ≠ [])
    (run : (memberLoop config world ∅ members).run m = .ok (tried, tries, connected) after) :
    tries ≠ [] := by
  cases members with
  | nil => exact absurd rfl some
  | cons memberId rest =>
      obtain ⟨won, _, later, rfl, -⟩ := memberLoop_cases (Finset.notMem_empty memberId) run
      exact List.cons_ne_nil _ _

/-- An attempt with nothing tried before it tries a member, or it leaves two looks behind. -/
private theorem connectAttempt_empty (listed : config.clusterEndpoints ≠ []) {tried : Finset Int}
    {attempt : Attempt} {connected : Bool}
    (run : (connectAttempt config world ∅).run m = .ok (tried, attempt, connected) after) :
    (attempt.members ≠ [] ∧ RegisterAllows config world m 1) ∨
      (attempt.members = [] ∧ ¬ RegisterAllows config world m 1 ∧ tried = ∅ ∧
        connected = false ∧ after = afterLook world (afterLook world m)) := by
  rw [registerAllows_one]
  unfold connectAttempt at run
  obtain ⟨_, _, first, run⟩ := bind_eq_ok.mp run
  cases run_look.symm.trans first
  change EStateM.run (if 0 ≤ registerAt world m 0 ∧
    registerAt world m 0 < config.clusterEndpoints.length ∧
      registerAt world m 0 ∉ (∅ : Finset Int) then _ else _) _ = _ at run
  split at run
  · rename_i followed
    exact Or.inl ⟨followRedirect_ne_nil run, Or.inl ⟨followed.1, followed.2.1⟩⟩
  · rename_i notFollowed
    simp only [Finset.notMem_empty, not_false_eq_true, and_true] at notFollowed
    obtain ⟨_, _, second, run⟩ := bind_eq_ok.mp run
    cases run_look.symm.trans second
    change EStateM.run (if 0 ≤ registerAt world m 1 then _ else _) _ = _ at run
    split at run
    · rename_i pending
      cases run
      refine Or.inr ⟨rfl, ?_, rfl, rfl, rfl⟩
      rintro (allowed | allowed)
      · exact notFollowed allowed
      · omega
    · rename_i free
      obtain ⟨⟨loopTried, tries, won⟩, _, loop, ⟨⟩⟩ := bind_eq_ok.mp run
      have some : memberIds config ≠ [] := by
        simpa [memberIds] using listed
      refine Or.inl ⟨?_, Or.inr (by omega)⟩
      simpa [Attempt.members] using memberLoop_ne_nil some loop

private theorem connectLoop_tries_iff (listed : config.clusterEndpoints ≠ []) {remaining : Nat}
    {attempts : List Attempt} {connected : Bool}
    (run : (connectLoop config world ∅ remaining).run m = .ok (attempts, connected) after) :
    TriesSomeMember attempts ↔ RegisterAllows config world m remaining := by
  induction remaining generalizing m attempts connected with
  | zero =>
      cases run
      simp [TriesSomeMember, RegisterAllows]
  | succ remaining ih =>
      obtain ⟨tried, first, won, _, later, rfl, firstRun, rest⟩ := connectLoop_cases run
      rw [registerAllows_succ]
      rcases connectAttempt_empty listed firstRun with
        ⟨tries, allowed⟩ | ⟨skips, blocked, rfl, rfl, rfl⟩
      · exact iff_of_true ⟨first, List.mem_cons_self, tries⟩ (Or.inl allowed)
      · obtain ⟨⟨⟩, -⟩ | ⟨-, laterRun⟩ := rest
        rw [or_iff_right blocked, ← ih laterRun]
        unfold TriesSomeMember
        simp [skips]

/-- In every run, a connect call tries some member exactly when one of its attempts finds
the redirect register at an index of the endpoint list or finds no redirect pending. -/
theorem connect_tries_iff (listed : config.clusterEndpoints ≠ []) :
    TriesSomeMember (attemptsOf config world m) ↔
      RegisterAllows config world m config.maxRetries.toNat := by
  obtain ⟨connected, after, run⟩ := attemptsOf_eq config world m
  exact connectLoop_tries_iff listed run

/-- Without events during the call, the register it starts with decides. -/
theorem registerAllows_quiet (quiet : ∀ k, world.events k = []) {attempts : Nat}
    (some : 0 < attempts) (listed : config.clusterEndpoints ≠ []) :
    RegisterAllows config world m attempts ↔
      m.session.redirectedToMemberId < config.clusterEndpoints.length := by
  have same (k : Nat) : registerAt world m k = m.session.redirectedToMemberId := by
    unfold registerAt
    induction k generalizing m with
    | zero => simp [afterLook, quiet]
    | succ k ih =>
        rw [Function.iterate_succ_apply, ih]
        simp [afterLook, quiet]
  have size := List.length_pos_iff.mpr listed
  unfold RegisterAllows
  simp only [same]
  constructor
  · rintro ⟨_, _, _ | _⟩ <;> omega
  · exact fun below => ⟨0, some, by omega⟩

section Sample

/-- A session manager with a redirect to a member that no endpoint is configured for. -/
def wedged : Machine := { session := ({} : SessionState).handleSessionEvent (redirectEvent 7) }

theorem connect_tries_iff_sample :
    TriesSomeMember (attemptsOf {} {} wedged) ↔ RegisterAllows {} {} wedged 3 :=
  connect_tries_iff (by decide)

/-- All three attempts of the default configuration are skipped. -/
theorem connect_of_wedged_tries_nobody :
    ¬ ∀ (config : ClusterClientConfig) (world : World) (m : Machine), 1 ≤ config.maxRetries →
      (∃ memberId, resolveEndpointForMember config.clusterEndpoints memberId ≠ []) →
      TriesSomeMember (attemptsOf config world m) := by
  intro claim
  obtain ⟨attempt, made, tries⟩ := claim {} {} wedged (by decide) ⟨0, by decide⟩
  have skipped : attemptsOf {} {} wedged = List.replicate 3 { redirectTarget := 7 } := by
    decide +kernel
  rw [skipped] at made
  rw [List.eq_of_mem_replicate made] at tries
  exact tries rfl

end Sample

end AeronClusterClient.Session.Availability
