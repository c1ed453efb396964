/- module: AeronClusterClient/Session/OfferLoop
   source: src/session_manager.cpp (send_raw_message, send_combined_message, handle_offer_failure)
   digest: What a send does, as a function of the results of its offers. -/

import AeronClusterClient.Session.Acceptance
import AeronClusterClient.Session.CloseRequest

/-!
Two functions carry the same retry loop. The results of the offers decide how
many offers there are, what is returned and what is left of the connection; the
other threads go on with the session between the offers.
-/

set_option autoImplicit false
set_option relaxedAutoImplicit false

namespace AeronClusterClient.Session.OfferLoop

open Lib.Action Session.Manager Session.Updates Session.Availability Session.Acceptance
open Session.CloseRequest (effectivePublishRetryAttempts_pos offered_afterOffer)
open Config (ClusterClientConfig)

section Failures

/-- Back pressure, or an administrative action. -/
def Transient (result : Int) : Prop := result = BACK_PRESSURED ∨ result = ADMIN_ACTION

/-- The results after which the session is given up. -/
def EndsConnection (result : Int) : Prop :=
  result = NOT_CONNECTED ∨ result = PUBLICATION_CLOSED ∨ result = MAX_POSITION_EXCEEDED ∨
    result = kAeronPublicationErrorCode

instance (result : Int) : Decidable (Transient result) := inferInstanceAs (Decidable (_ ∨ _))

variable {result : Int} {s : SessionState}

theorem isTransientFailure_iff :
    isTransientFailure (classifyOfferFailure result) = true ↔ Transient result := by
  unfold classifyOfferFailure Transient NOT_CONNECTED BACK_PRESSURED ADMIN_ACTION PUBLICATION_CLOSED
    MAX_POSITION_EXCEEDED kAeronPublicationErrorCode
  split_ifs <;> simp [isTransientFailure] <;> omega

theorem isConnectionLossFailure_iff :
    isConnectionLossFailure (classifyOfferFailure result) = true ↔ EndsConnection result := by
  unfold classifyOfferFailure EndsConnection NOT_CONNECTED BACK_PRESSURED ADMIN_ACTION
    PUBLICATION_CLOSED MAX_POSITION_EXCEEDED kAeronPublicationErrorCode
  split_ifs <;> simp [isConnectionLossFailure] <;> omega

theorem classifyOfferFailure_eq_none : classifyOfferFailure result = .none ↔ 0 < result := by
  unfold classifyOfferFailure
  split_ifs <;> simp_all

theorem Transient.not_pos (transient : Transient result) : ¬ 0 < result := by
  rcases transient with rfl | rfl <;> decide

theorem Transient.keeps (transient : Transient result) : ¬ EndsConnection result := by
  rcases transient with rfl | rfl <;> unfold EndsConnection <;> decide

theorem EndsConnection.not_pos (ends : EndsConnection result) : ¬ 0 < result := by
  rcases ends with rfl | rfl | rfl | rfl <;> decide

theorem connected_handleConnectionLoss : s.handleConnectionLoss.connected = false := by
  unfold SessionState.handleConnectionLoss
  split
  · rfl
  · next lost => simpa using lost

theorem connected_handleOfferFailure :
    (s.handleOfferFailure result).connected = true ↔ s.connected = true ∧ ¬ EndsConnection result := by
  rw [← isConnectionLossFailure_iff]
  unfold SessionState.handleOfferFailure
  dsimp only
  split
  · next none => simp [none, isConnectionLossFailure, SessionState.clearLastPublicationError]
  · split
    · next lost => simp [lost, connected_handleConnectionLoss]
    · next kept => simp [kept, SessionState.updateLastPublicationError]

/-- A failed offer is recorded with its description, and neither counted nor offered again by that. -/
theorem handleOfferFailure_records (failed : ¬ 0 < result) :
    (s.handleOfferFailure result).lastOfferErrorCode = result ∧
      (s.handleOfferFailure result).lastOfferErrorMessage = describeOfferFailure result ∧
      (s.handleOfferFailure result).offered = s.offered ∧
      (s.handleOfferFailure result).stats = s.stats := by
  unfold SessionState.handleOfferFailure SessionState.handleConnectionLoss
  dsimp only
  rw [if_neg (mt classifyOfferFailure_eq_none.mp failed)]
  split
  · split <;> exact ⟨rfl, rfl, rfl, rfl⟩
  · exact ⟨rfl, rfl, rfl, rfl⟩

end Failures

section Looks

variable {world : World} {m n : Machine}

theorem messagesSent_apply (s : SessionState) (event : Event) :
    (s.apply event).stats.messagesSent = s.stats.messagesSent := by
  cases event with
  | session result =>
      change (s.handleSessionEvent result).stats.messagesSent = _
      cases isEvent : result.isSessionEvent with
      | false => rw [handleSessionEvent_of_other s isEvent]
      | true =>
          obtain ⟨handled, handles, same⟩ := handleSessionEvent_handles s isEvent
          rw [same]
          cases handles <;> rfl
  | offerFailed result =>
      change (s.handleOfferFailure result).stats.messagesSent = _
      by_cases accepted : 0 < result
      · unfold SessionState.handleOfferFailure
        rw [if_pos (classifyOfferFailure_eq_none.mpr accepted)]
        rfl
      · rw [(handleOfferFailure_records accepted).2.2.2]
  | publication connected => rfl

theorem messagesSent_afterLook :
    (afterLook world m).session.stats.messagesSent = m.session.stats.messagesSent :=
  kept_afterLook (fun s => s.stats.messagesSent) messagesSent_apply world m

theorem connected_apply {s t : SessionState} (same : s.connected = t.connected) (event : Event) :
    (s.apply event).connected = (t.apply event).connected := by
  cases event with
  | session result =>
      change (s.handleSessionEvent result).connected = (t.handleSessionEvent result).connected
      unfold SessionState.handleSessionEvent
      split_ifs
      · exact same
      all_goals first | rfl | exact same
  | offerFailed result =>
      change (s.handleOfferFailure result).connected = (t.handleOfferFailure result).connected
      rw [Bool.eq_iff_iff, connected_handleOfferFailure, connected_handleOfferFailure, same]
  | publication connected => exact same

/-- Two machines that cannot be told apart by the flag and by the number of looks. -/
def Alike (m n : Machine) : Prop := m.looks = n.looks ∧ m.session.connected = n.session.connected

theorem Alike.afterLook (alike : Alike m n) : Alike (afterLook world m) (afterLook world n) := by
  obtain ⟨looks, connected⟩ := alike
  have folded (events : List Event) (s t : SessionState) (same : s.connected = t.connected) :
      (events.foldl SessionState.apply s).connected =
        (events.foldl SessionState.apply t).connected := by
    induction events generalizing s t with
    | nil => exact same
    | cons event events ih => exact ih _ _ (connected_apply same event)
  refine ⟨congrArg (· + 1) looks, ?_⟩
  unfold Availability.afterLook
  rw [looks]
  exact folded _ _ _ connected

theorem Alike.afterLooks (alike : Alike m n) (world : World) (k : Nat) :
    Alike ((Availability.afterLook world)^[k] m) ((Availability.afterLook world)^[k] n) := by
  induction k generalizing m n with
  | zero => exact alike
  | succ k ih => exact ih alike.afterLook

end Looks

section Results

/-- How many offers a call with these attempts makes: it goes on after transient failures only. -/
def offersMade : Nat → (Nat → Int) → Nat
  | 0, _ => 0
  | attempts + 1, results =>
      if Transient (results 0) then offersMade attempts (fun i => results (i + 1)) + 1 else 1

def lastResult (attempts : Nat) (results : Nat → Int) : Int :=
  results (offersMade attempts results - 1)

def succeeds (attempts : Nat) (results : Nat → Int) : Bool := 0 < lastResult attempts results

variable {attempts : Nat} {results : Nat → Int}

theorem offersMade_le : offersMade attempts results ≤ attempts := by
  induction attempts generalizing results with
  | zero => exact le_rfl
  | succ attempts ih =>
      unfold offersMade
      split
      · exact Nat.succ_le_succ ih
      · omega

theorem offersMade_pos : 0 < offersMade (attempts + 1) results := by
  unfold offersMade
  split <;> omega

theorem lastResult_of_transient (transient : Transient (results 0)) :
    lastResult (attempts + 2) results = lastResult (attempts + 1) fun i => results (i + 1) := by
  have later : 0 < offersMade (attempts + 1) fun i => results (i + 1) := offersMade_pos
  unfold lastResult
  rw [offersMade, if_pos transient]
  congr 1
  omega

theorem lastResult_of_final (final : ¬ Transient (results 0)) :
    lastResult (attempts + 1) results = results 0 := by
  unfold lastResult
  rw [offersMade, if_neg final]

theorem lastResult_one : lastResult 1 results = results 0 := by
  unfold lastResult offersMade
  split <;> rfl

/-- A call succeeds exactly if fewer transient failures than it has attempts come before a positive
result. -/
theorem succeeds_iff (positive : 0 < attempts) :
    succeeds attempts results = true ↔
      ∃ k < attempts, (∀ i < k, Transient (results i)) ∧ 0 < results k := by
  obtain ⟨more, rfl⟩ := Nat.exists_eq_add_one_of_ne_zero positive.ne'
  clear positive
  rw [succeeds, decide_eq_true_iff]
  induction more generalizing results with
  | zero =>
      rw [lastResult_one]
      constructor
      · intro accepted
        exact ⟨0, Nat.one_pos, nofun, accepted⟩
      · rintro ⟨k, first, -, accepted⟩
        obtain rfl : k = 0 := by omega
        exact accepted
  | succ more ih =>
      by_cases transient : Transient (results 0)
      · rw [lastResult_of_transient transient, ih]
        constructor
        · rintro ⟨k, below, before, accepted⟩
          refine ⟨k + 1, by omega, fun i earlier => ?_, accepted⟩
          cases i with
          | zero => exact transient
          | succ i => exact before i (by omega)
        · rintro ⟨k, below, before, accepted⟩
          cases k with
          | zero => exact absurd accepted transient.not_pos
          | succ k => exact ⟨k, by omega, fun i earlier => before (i + 1) (by omega), accepted⟩
      · rw [lastResult_of_final transient]
        constructor
        · intro accepted
          exact ⟨0, by omega, nofun, accepted⟩
        · rintro ⟨k, -, before, accepted⟩
          cases k with
          | zero => exact accepted
          | succ k => exact absurd (before 0 (by omega)) transient

def offers (frame : List UInt8) (attempts : Nat) (results : Nat → Int) : List (List UInt8 × Int) :=
  (List.range (offersMade attempts results)).map fun i => (frame, results i)

variable {frame : List UInt8}

theorem offers_of_transient (transient : Transient (results 0)) :
    offers frame (attempts + 1) results =
      (frame, results 0) :: offers frame attempts fun i => results (i + 1) := by
  unfold offers
  rw [offersMade, if_pos transient, List.range_succ_eq_map, List.map_cons, List.map_map]
  rfl

theorem offers_of_final (final : ¬ Transient (results 0)) :
    offers frame (attempts + 1) results = [(frame, results 0)] := by
  unfold offers
  rw [offersMade, if_neg final]
  rfl

theorem acceptedFrames_singleton (result : Int) :
    acceptedFrames [(frame, result)] = if 0 < result then [frame] else [] := by
  by_cases accepted : 0 < result <;> simp [acceptedFrames, accepted]

/-- Only the last offer of a call can be accepted. -/
theorem acceptedFrames_offers :
    acceptedFrames (offers frame (attempts + 1) results) =
      if succeeds (attempts + 1) results then [frame] else [] := by
  induction attempts generalizing results with
  | zero =>
      have one : offers frame 1 results = [(frame, results 0)] := by
        by_cases transient : Transient (results 0)
        · rw [offers_of_transient transient]
          rfl
        · exact offers_of_final transient
      rw [one, acceptedFrames_singleton, succeeds, lastResult_one]
      simp
  | succ attempts ih =>
      by_cases transient : Transient (results 0)
      · have refused : acceptedFrames ((frame, results 0) ::
            offers frame (attempts + 1) fun i => results (i + 1)) =
              acceptedFrames (offers frame (attempts + 1) fun i => results (i + 1)) := by
          simp [acceptedFrames, transient.not_pos]
        rw [offers_of_transient transient, refused, ih, succeeds, succeeds,
          lastResult_of_transient transient]
      · rw [offers_of_final transient, acceptedFrames_singleton, succeeds,
          lastResult_of_final transient]
        simp

end Results

section Loop

variable {world : World} {frame : List UInt8} {results : Nat → Int}

/-- What a call has done to the session when its offers have had these results; `left` is the flag
as the other threads alone would have left it. -/
structure Follows (frame : List UInt8) (attempts : Nat) (results : Nat → Int) (before : SessionState)
    (left : Bool) (after : SessionState) : Prop where
  offered : after.offered = before.offered ++ offers frame attempts results
  counted : after.stats.messagesSent =
    before.stats.messagesSent + if succeeds attempts results then 1 else 0
  code : after.lastOfferErrorCode =
    if succeeds attempts results then 0 else lastResult attempts results
  message : after.lastOfferErrorMessage =
    if succeeds attempts results then [] else describeOfferFailure (lastResult attempts results)
  connected : after.connected = true ↔
    left = true ∧ ¬ EndsConnection (lastResult attempts results)

theorem messagesSent_afterOffer {m : Machine} {result : Int} :
    (afterOffer world frame result m).session.stats.messagesSent = m.session.stats.messagesSent :=
  messagesSent_afterLook

def afterFailure (world : World) (frame : List UInt8) (result : Int) (m : Machine) : Machine :=
  { afterOffer world frame result m with
    session := (afterOffer world frame result m).session.handleOfferFailure result }

theorem alike_afterFailure {m : Machine} {result : Int} (transient : Transient result) :
    Alike (afterFailure world frame result m) (afterLook world m) := by
  refine ⟨rfl, ?_⟩
  change ((afterOffer world frame result m).session.handleOfferFailure result).connected = _
  rw [Bool.eq_iff_iff, connected_handleOfferFailure, and_iff_left transient.keeps]
  rfl

theorem follows_failure {m : Machine} {attempts : Nat} (failed : ¬ 0 < results 0)
    (last : lastResult attempts results = results 0)
    (once : offers frame attempts results = [(frame, results 0)]) :
    Follows frame attempts results m.session (afterLook world m).session.connected
      (afterFailure world frame (results 0) m).session := by
  have denied : succeeds attempts results = false := by
    rw [succeeds, last]
    exact decide_eq_false failed
  obtain ⟨code, message, offered, stats⟩ := handleOfferFailure_records
    (s := (afterOffer world frame (results 0) m).session) failed
  refine ⟨?_, ?_, ?_, ?_, ?_⟩
  · rw [offered_afterOffer] at offered
    rw [once]
    exact offered
  · have counted := congrArg SessionStats.messagesSent stats
    rw [messagesSent_afterOffer] at counted
    rw [denied]
    exact counted
  · rw [denied, last]
    exact code
  · rw [denied, last]
    exact message
  · rw [last]
    exact connected_handleOfferFailure

theorem follows_success {m : Machine} {attempts : Nat} (accepted : 0 < results 0)
    (last : lastResult attempts results = results 0)
    (once : offers frame attempts results = [(frame, results 0)]) :
    let s := (afterOffer world frame (results 0) m).session
    Follows frame attempts results m.session (afterLook world m).session.connected
      { s.clearLastPublicationError with stats.messagesSent := s.stats.messagesSent + 1 } := by
  have reported : succeeds attempts results = true := by
    rw [succeeds, last]
    exact decide_eq_true accepted
  refine ⟨?_, ?_, ?_, ?_, ?_⟩
  · rw [once]
    exact offered_afterOffer
  · rw [reported]
    exact congrArg (· + 1) messagesSent_afterOffer
  · rw [reported]
    rfl
  · rw [reported]
    rfl
  · rw [last]
    exact (and_iff_left fun ends : EndsConnection (results 0) => ends.not_pos accepted).symm

theorem follows_of_transient {m : Machine} {attempts : Nat} {left : Bool} {after : SessionState}
    (transient : Transient (results 0))
    (rest : Follows frame (attempts + 1) (fun i => results (i + 1))
      (afterFailure world frame (results 0) m).session left after) :
    Follows frame (attempts + 2) results m.session left after := by
  obtain ⟨-, -, offered, stats⟩ := handleOfferFailure_records
    (s := (afterOffer world frame (results 0) m).session) transient.not_pos
  have same : succeeds (attempts + 2) results = succeeds (attempts + 1) fun i => results (i + 1) := by
    rw [succeeds, succeeds, lastResult_of_transient transient]
  have last : lastResult (attempts + 2) results =
      lastResult (attempts + 1) fun i => results (i + 1) := lastResult_of_transient transient
  refine ⟨?_, ?_, ?_, ?_, ?_⟩
  · rw [offered_afterOffer] at offered
    rw [rest.offered, offers_of_transient transient]
    change ((afterOffer world frame (results 0) m).session.handleOfferFailure (results 0)).offered ++ _ = _
    rw [offered, List.append_assoc, List.singleton_append]
  · have counted := congrArg SessionStats.messagesSent stats
    rw [messagesSent_afterOffer] at counted
    rw [rest.counted, same]
    exact congrArg (· + _) counted
  · rw [rest.code, same, last]
  · rw [rest.message, same, last]
  · rw [rest.connected, last]

section Passes

variable {m : Machine} {result : Int} (answered : world.offer (m.looks + 1) = .ok result)

include answered

theorem offerLoop_of_accepted (accepted : 0 < result) (attempts : Nat) :
    (offerLoop world frame (attempts + 1)).run m = .ok true
      { afterOffer world frame result m with
        session :=
          { (afterOffer world frame result m).session.clearLastPublicationError with
            stats.messagesSent :=
              (afterOffer world frame result m).session.stats.messagesSent + 1 } } := by
  unfold offerLoop
  rw [EStateM.run_bind, run_offer answered]
  dsimp only
  rw [if_pos accepted]
  rfl

theorem offerLoop_of_failed (failed : ¬ 0 < result) (attempts : Nat) :
    (offerLoop world frame (attempts + 1)).run m =
      if Transient result ∧ attempts ≠ 0 then
        (offerLoop world frame attempts).run (afterFailure world frame result m)
      else .ok false (afterFailure world frame result m) := by
  rw [offerLoop, EStateM.run_bind, run_offer answered]
  dsimp only
  rw [if_neg failed]
  by_cases again : Transient result ∧ attempts ≠ 0
  · have goesOn : (!isTransientFailure (classifyOfferFailure result) || attempts == 0) = false := by
      simp [isTransientFailure_iff.mpr again.1, again.2]
    rw [if_pos again, goesOn]
    rfl
  · have stops : (!isTransientFailure (classifyOfferFailure result) || attempts == 0) = true := by
      by_cases transient : Transient result
      · have none : attempts = 0 := by_contra fun left => again ⟨transient, left⟩
        simp [none]
      · have final : isTransientFailure (classifyOfferFailure result) = false := by
          rw [← Bool.not_eq_true, isTransientFailure_iff]
          exact transient
        simp [final]
    rw [if_neg again, stops]
    rfl

end Passes

def LoopFollows (world : World) (frame : List UInt8) (attempts : Nat) (results : Nat → Int)
    (m : Machine) : Prop :=
  ∃ after, (offerLoop world frame attempts).run m = .ok (succeeds attempts results) after ∧
    Follows frame attempts results m.session
      ((afterLook world)^[offersMade attempts results] m).session.connected after.session

theorem loopFollows_once {attempts : Nat} {m : Machine}
    (answered : world.offer (m.looks + 1) = .ok (results 0))
    (one : offersMade (attempts + 1) results = 1) (stops : ¬ (Transient (results 0) ∧ attempts ≠ 0)) :
    LoopFollows world frame (attempts + 1) results m := by
  have last : lastResult (attempts + 1) results = results 0 := by rw [lastResult, one]
  have once : offers frame (attempts + 1) results = [(frame, results 0)] := by
    rw [offers, one]
    rfl
  unfold LoopFollows
  rw [one, succeeds, last]
  by_cases accepted : 0 < results 0
  · rw [decide_eq_true accepted]
    exact ⟨_, offerLoop_of_accepted answered accepted attempts, follows_success accepted last once⟩
  · rw [decide_eq_false accepted, offerLoop_of_failed answered accepted, if_neg stops]
    exact ⟨_, rfl, follows_failure accepted last once⟩

theorem loopFollows (attempts : Nat) {m : Machine}
    (answers : ∀ i, world.offer (m.looks + 1 + i) = .ok (results i)) :
    LoopFollows world frame (attempts + 1) results m := by
  induction attempts generalizing results m with
  | zero =>
      have one : offersMade 1 results = 1 := le_antisymm offersMade_le offersMade_pos
      exact loopFollows_once (answers 0) one fun again => again.2 rfl
  | succ attempts ih =>
      by_cases transient : Transient (results 0)
      · have later (i : Nat) :
            world.offer ((afterFailure world frame (results 0) m).looks + 1 + i) =
              .ok (results (i + 1)) := by
          rw [← answers (i + 1)]
          change world.offer (m.looks + 1 + 1 + i) = world.offer (m.looks + 1 + (i + 1))
          congr 1
          omega
        obtain ⟨after, run, rest⟩ := ih later
        have same : succeeds (attempts + 2) results =
            succeeds (attempts + 1) fun i => results (i + 1) := by
          rw [succeeds, succeeds, lastResult_of_transient transient]
        refine ⟨after, ?_, ?_⟩
        · rw [offerLoop_of_failed (answers 0) transient.not_pos, if_pos ⟨transient, by omega⟩, run, same]
        · have alike : Alike (afterFailure world frame (results 0) m) (afterLook world m) :=
            alike_afterFailure transient
          have left := (alike.afterLooks world (offersMade (attempts + 1) fun i => results (i + 1))).2
          rw [offersMade, if_pos transient, Function.iterate_succ_apply, ← left]
          exact follows_of_transient transient rest
      · have one : offersMade (attempts + 2) results = 1 := by rw [offersMade, if_neg transient]
        exact loopFollows_once (answers 0) one fun again => transient again.1

end Loop

section Sends

variable {frame : List UInt8} {attempts : Nat} {results : Nat → Int}

/-- A call that finds its session connected each of the times that it checks this, and whose offers
then have these results. -/
structure Call (checks : Nat) (results : Nat → Int) where
  world : World
  before : Machine
  connected : ∀ i < checks, ((afterLook world)^[i + 1] before).session.isConnected = true
  answers : ∀ i, world.offer (before.looks + checks + 1 + i) = .ok (results i)

variable {checks : Nat}

def Call.checked (c : Call checks results) : Machine := (afterLook c.world)^[checks] c.before

/-- The flag as the other threads alone leave it by the last of some offers. -/
def Call.left (c : Call checks results) (offers : Nat) : Bool :=
  ((afterLook c.world)^[checks + offers] c.before).session.connected

theorem looks_afterLooks (world : World) (m : Machine) (k : Nat) :
    ((afterLook world)^[k] m).looks = m.looks + k := by
  induction k generalizing m with
  | zero => rfl
  | succ k ih =>
      rw [Function.iterate_succ_apply, ih]
      change m.looks + 1 + k = m.looks + (k + 1)
      omega

theorem offered_afterLooks (world : World) (m : Machine) (k : Nat) :
    ((afterLook world)^[k] m).session.offered = m.session.offered :=
  kept_afterLooks SessionState.offered (fun s event => (apply_kept s event).1) world m k

theorem messagesSent_afterLooks (world : World) (m : Machine) (k : Nat) :
    ((afterLook world)^[k] m).session.stats.messagesSent = m.session.stats.messagesSent :=
  kept_afterLooks (fun s => s.stats.messagesSent) messagesSent_apply world m k

theorem Call.loop_follows (c : Call checks results) (config : ClusterClientConfig)
    (frame : List UInt8) :
    let attempts := effectivePublishRetryAttempts config
    ∃ after, (tryCatch (offerLoop c.world frame attempts) (fun _ => return false)).run c.checked =
        .ok (succeeds attempts results) after ∧
      Follows frame attempts results c.before.session (c.left (offersMade attempts results))
        after.session := by
  intro attempts
  have positive : 0 < attempts := effectivePublishRetryAttempts_pos
  obtain ⟨more, same⟩ := Nat.exists_eq_add_one_of_ne_zero positive.ne'
  have answers (i : Nat) : c.world.offer (c.checked.looks + 1 + i) = .ok (results i) := by
    rw [checked, looks_afterLooks]
    exact c.answers i
  have loop : LoopFollows c.world frame (more + 1) results c.checked := loopFollows more answers
  obtain ⟨after, run, follows⟩ := loop
  rw [← same] at run follows
  refine ⟨after, tryCatch_of_ok run, ?_, ?_, follows.code, follows.message, ?_⟩
  · rw [follows.offered, checked, offered_afterLooks]
  · rw [follows.counted, checked, messagesSent_afterLooks]
  · rw [follows.connected, left, Nat.add_comm checks, Function.iterate_add_apply]
    rfl

theorem Follows.accepts {before after : SessionState} {left : Bool} (positive : 0 < attempts)
    (follows : Follows frame attempts results before left after) :
    Accepts (if succeeds attempts results then [frame] else []) before after := by
  obtain ⟨more, rfl⟩ := Nat.exists_eq_add_one_of_ne_zero positive.ne'
  exact ⟨offers frame (more + 1) results, follows.offered, acceptedFrames_offers⟩

theorem sendRawMessage_follows (c : Call 1 results) (config : ClusterClientConfig)
    (encodedMessage : List UInt8) :
    let attempts := effectivePublishRetryAttempts config
    ∃ after, (sendRawMessage config c.world encodedMessage).run c.before =
        .ok (succeeds attempts results) after ∧
      Follows encodedMessage attempts results c.before.session
        (c.left (offersMade attempts results)) after.session := by
  intro attempts
  obtain ⟨after, run, follows⟩ := c.loop_follows config encodedMessage
  refine ⟨after, ?_, follows⟩
  have connected : (afterLook c.world c.before).session.isConnected = true := c.connected 0 (by decide)
  unfold sendRawMessage
  refine bind_eq_ok.mpr ⟨_, _, run_look, ?_⟩
  rw [connected]
  exact run

/-- The frame of a combined message, with the header as the second check finds it. -/
def Call.combined (c : Call 2 results) (businessMessage : List UInt8) : List UInt8 :=
  c.checked.session.sessionHeaderBuffer ++ businessMessage

theorem sendCombinedMessage_follows (c : Call 2 results) (config : ClusterClientConfig)
    (businessMessage : List UInt8) :
    let attempts := effectivePublishRetryAttempts config
    ∃ after, (sendCombinedMessage config c.world businessMessage).run c.before =
        .ok (succeeds attempts results) after ∧
      Follows (c.combined businessMessage) attempts results c.before.session
        (c.left (offersMade attempts results)) after.session := by
  intro attempts
  obtain ⟨after, run, follows⟩ := c.loop_follows config (c.combined businessMessage)
  refine ⟨after, ?_, follows⟩
  have first : (afterLook c.world c.before).session.isConnected = true := c.connected 0 (by decide)
  have second : (afterLook c.world (afterLook c.world c.before)).session.isConnected = true :=
    c.connected 1 (by decide)
  unfold sendCombinedMessage
  refine bind_eq_ok.mpr ⟨_, _, run_look, ?_⟩
  rw [first]
  refine bind_eq_ok.mpr ⟨_, _, run_look, ?_⟩
  rw [second]
  exact run

theorem Call.left_of_quiet (c : Call (checks + 1) results) (quiet : ∀ k, c.world.events k = [])
    (n : Nat) : c.left n = true := by
  have still (m : Machine) (k : Nat) :
      ((afterLook c.world)^[k] m).session.connected = m.session.connected := by
    induction k generalizing m with
    | zero => rfl
    | succ k ih =>
        rw [Function.iterate_succ_apply, ih, afterLook, quiet]
        rfl
  have found := c.connected 0 (by omega)
  unfold SessionState.isConnected at found
  simp only [Bool.and_eq_true] at found
  rw [left, still, ← still c.before 1]
  exact found.1.1.1

/-- Both functions do what the results of their offers say, and the same on the same results. -/
theorem sends_follow_results (config : ClusterClientConfig) (results : Nat → Int) (raw : Call 1 results)
    (combined : Call 2 results) (encodedMessage businessMessage : List UInt8) :
    let attempts := effectivePublishRetryAttempts config
    let sent := succeeds attempts results
    (attempts : Int) = max 1 config.publishMaxRetryAttempts ∧
    offersMade attempts results ≤ attempts ∧
    (sent = true ↔ ∃ k < attempts, (∀ i < k, Transient (results i)) ∧ 0 < results k) ∧
    (∃ after, (sendRawMessage config raw.world encodedMessage).run raw.before = .ok sent after ∧
      Accepts (if sent then [encodedMessage] else []) raw.before.session after.session ∧
      Follows encodedMessage attempts results raw.before.session
        (raw.left (offersMade attempts results)) after.session) ∧
    (∃ after, (sendCombinedMessage config combined.world businessMessage).run combined.before =
        .ok sent after ∧
      Accepts (if sent then [combined.combined businessMessage] else []) combined.before.session
        after.session ∧
      Follows (combined.combined businessMessage) attempts results combined.before.session
        (combined.left (offersMade attempts results)) after.session) ∧
    ((∀ k, raw.world.events k = []) → ∀ n, raw.left n = true) ∧
    ((∀ k, combined.world.events k = []) → ∀ n, combined.left n = true) := by
  intro attempts sent
  have positive : 0 < attempts := effectivePublishRetryAttempts_pos
  obtain ⟨rawAfter, rawRun, rawFollows⟩ := sendRawMessage_follows raw config encodedMessage
  obtain ⟨combinedAfter, combinedRun, combinedFollows⟩ :=
    sendCombinedMessage_follows combined config businessMessage
  refine ⟨Int.toNat_of_nonneg (by omega), offersMade_le, succeeds_iff positive,
    ⟨rawAfter, rawRun, rawFollows.accepts positive, rawFollows⟩,
    ⟨combinedAfter, combinedRun, combinedFollows.accepts positive, combinedFollows⟩,
    raw.left_of_quiet, combined.left_of_quiet⟩

section Sample

def established : SessionState :=
  { ingressPublication := some ⟨true⟩, sessionId := 1, leadershipTermId := 1, connected := true }

def pressedBack (i : Nat) : Int := if i = 0 then BACK_PRESSURED else 1

def rawCall : Call 1 pressedBack where
  world := { offer := fun k => .ok (pressedBack (k - 2)) }
  before := { session := established }
  connected := by decide
  answers i := by simp

def combinedCall : Call 2 pressedBack where
  world := { offer := fun k => .ok (pressedBack (k - 3)) }
  before := { session := established }
  connected := by decide
  answers i := by simp

/-- With three attempts, both calls succeed at their second offer. -/
theorem sends_follow_results_sample :
    (∃ after, (sendRawMessage { publishMaxRetryAttempts := 3 } rawCall.world [7]).run rawCall.before =
      .ok true after) ∧
    ∃ after, (sendCombinedMessage { publishMaxRetryAttempts := 3 } combinedCall.world [7]).run
      combinedCall.before = .ok true after := by
  obtain ⟨-, -, -, ⟨rawAfter, raw, -⟩, ⟨combinedAfter, combined, -⟩, -⟩ :=
    sends_follow_results { publishMaxRetryAttempts := 3 } pressedBack rawCall combinedCall [7] [7]
  exact ⟨⟨rawAfter, raw⟩, ⟨combinedAfter, combined⟩⟩

end Sample

end Sends

end AeronClusterClient.Session.OfferLoop
